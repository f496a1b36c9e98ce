import MailRuntime.Repositories.Inbound

/-!
# The thread a reply refers to

`findThreadByInternetMessageIds` takes the first identifier it is given that its query finds a
message in a thread for, and looks at the two newest of these messages. If they are of one
thread, older ones may be of another, and then the reply is filed though the reference is
ambiguous. The query compares with SQL's `lower`, which leaves a capital outside ASCII as it is
where `toLowerCase` does not, so a message stored with one is not found.
-/

namespace MailRuntime

open Js Interaction

/-! ### What is to be found -/

/-- The messages of the mailbox that carry an identifier, in whatever case. -/
def Db.carriers (s : Db) (env : Env) (tenantId mailboxId internetMessageId : String) :
    List MessageRow :=
  s.messages.filter fun m =>
    m.mailboxId == mailboxId && m.tenantId == tenantId &&
    m.internetMessageId.any fun id => env.toLowerCase id == env.toLowerCase internetMessageId

/-- The threads they lie in. -/
def Db.carrierThreads (s : Db) (env : Env) (tenantId mailboxId internetMessageId : String) :
    List ThreadRow :=
  (s.carriers env tenantId mailboxId internetMessageId).filterMap s.threadOf

/-- The referenced identifiers, normalized, each once. -/
def referencedIds (env : Env) (internetMessageIds : List String) : List String :=
  (internetMessageIds.filterMap fun id => normalizeInternetMessageId env (some id)).eraseDups

/-- The first of some identifiers that a message in a thread carries. -/
def Db.firstCarried (s : Db) (env : Env) (tenantId mailboxId : String) (ids : List String) :
    Option String :=
  ids.find? fun id => !(s.carrierThreads env tenantId mailboxId id).isEmpty

/-- All these are one thread. -/
def OneThread (threads : List ThreadRow) : Prop := ∀ t ∈ threads, ∀ t' ∈ threads, t.id = t'.id

instance (threads : List ThreadRow) : Decidable (OneThread threads) := by
  unfold OneThread
  infer_instance

/-- The thread found is one of the tenant's mailbox, and one is found exactly if the messages that
carry the first identifier that is carried all lie in it. -/
structure Db.FilesRight (s : Db) (env : Env) (tenantId mailboxId : String) (ids : List String)
    (found : Option ThreadRow) : Prop where
  own : ∀ t ∈ found, t ∈ s.threads ∧ t.tenantId = tenantId ∧ t.mailboxId = mailboxId
  unreferenced : s.firstCarried env tenantId mailboxId ids = none → found = none
  found : ∀ id ∈ s.firstCarried env tenantId mailboxId ids,
    (found.isSome = true ↔ OneThread (s.carrierThreads env tenantId mailboxId id)) ∧
      ∀ t ∈ found, t ∈ s.carrierThreads env tenantId mailboxId id ∧
        ∀ t' ∈ s.carrierThreads env tenantId mailboxId id, t'.id = t.id

/-- The threads shown of the first identifier that the query finds messages for. -/
def Db.shownThreads (s : Db) (tenantId mailboxId : String) : List String → List ThreadRow
  | [] => []
  | id :: rest =>
    if s.threadsByMessageId tenantId mailboxId id = [] then s.shownThreads tenantId mailboxId rest
    else s.threadsByMessageId tenantId mailboxId id

/-- The two newest messages tell what all do that carry the identifier. -/
inductive Db.NewestTell (s : Db) (env : Env) (tenantId mailboxId : String) (ids : List String)
    (internetMessageId : String) : Prop
  /-- The query finds some of them. Where the two newest that it finds are of one thread, all
  carriers are. -/
  | shown (hshown : s.threadsByMessageId tenantId mailboxId internetMessageId ≠ [])
      (htell : OneThread (s.threadsByMessageId tenantId mailboxId internetMessageId) →
        OneThread (s.carrierThreads env tenantId mailboxId internetMessageId))
  /-- It finds none of them, they are of several threads, and no other identifier leads to a
  thread. -/
  | unshown (hnone : s.threadsByMessageId tenantId mailboxId internetMessageId = [])
      (hseveral : ¬ OneThread (s.carrierThreads env tenantId mailboxId internetMessageId))
      (hothers : s.shownThreads tenantId mailboxId ids = [] ∨
        ¬ OneThread (s.shownThreads tenantId mailboxId ids))
  /-- It finds none of them, they are of one thread, and another identifier leads to it. -/
  | byAnother (hnone : s.threadsByMessageId tenantId mailboxId internetMessageId = [])
      (hother : s.shownThreads tenantId mailboxId ids ≠ [])
      (hone : OneThread (s.shownThreads tenantId mailboxId ids ++
        s.carrierThreads env tenantId mailboxId internetMessageId))

/-! ### What is found -/

section Search

variable {env : Env} {s : Db} {tenantId mailboxId internetMessageId : String} {ids : List String}

/-- `toLowerCase` makes of a text in SQL's `lower` what it makes of the text. -/
def LowersSql (env : Env) : Prop := ∀ s, env.toLowerCase (sqlLower s) = env.toLowerCase s

/-- What the query shows of an identifier is of messages that carry it. -/
theorem mem_carrierThreads_of_mem (hlower : LowersSql env) {t : ThreadRow}
    (h : t ∈ s.threadsByMessageId tenantId mailboxId internetMessageId) :
    t ∈ s.carrierThreads env tenantId mailboxId internetMessageId := by
  obtain ⟨m, hm, ht⟩ := List.mem_filterMap.1 (List.mem_of_mem_take h)
  have hm := (List.perm_insertionSort _ _).mem_iff.1 hm
  obtain ⟨hmem, hmatches⟩ := List.mem_filter.1 hm
  refine List.mem_filterMap.2 ⟨m, List.mem_filter.2 ⟨hmem, ?_⟩, ht⟩
  rw [Bool.and_eq_true] at hmatches ⊢
  refine ⟨hmatches.1, ?_⟩
  cases hid : m.internetMessageId with
  | none => simp [hid] at hmatches
  | some id =>
    have hsql : sqlLower id = internetMessageId := by simpa [hid] using hmatches.2
    simp [← hsql, hlower id]

theorem mem_shownThreads {t : ThreadRow} (h : t ∈ s.shownThreads tenantId mailboxId ids) :
    ∃ id, t ∈ s.threadsByMessageId tenantId mailboxId id := by
  induction ids with
  | nil => cases h
  | cons id rest ih =>
    rw [Db.shownThreads] at h
    split at h
    · exact ih h
    · exact ⟨id, h⟩

/-- Nothing is shown if nothing is carried. -/
theorem shownThreads_of_uncarried (hlower : LowersSql env)
    (h : s.firstCarried env tenantId mailboxId ids = none) :
    s.shownThreads tenantId mailboxId ids = [] := by
  induction ids with
  | nil => rfl
  | cons id rest ih =>
    rw [Db.firstCarried, List.find?_eq_none] at h
    have hnone : s.threadsByMessageId tenantId mailboxId id = [] := by
      refine List.eq_nil_iff_forall_not_mem.2 fun t ht => ?_
      have hcarried := mem_carrierThreads_of_mem hlower ht
      have hempty := h id List.mem_cons_self
      simp only [Bool.not_eq_true', Bool.not_eq_false, List.isEmpty_iff] at hempty
      rw [hempty] at hcarried
      cases hcarried
    rw [Db.shownThreads, if_pos hnone]
    exact ih (List.find?_eq_none.2 fun x hx => h x (List.mem_cons_of_mem _ hx))

/-- What is shown is of the first identifier that is carried, if the query shows any of it. -/
theorem shownThreads_of_carried (hlower : LowersSql env)
    (h : s.firstCarried env tenantId mailboxId ids = some internetMessageId)
    (hshown : s.threadsByMessageId tenantId mailboxId internetMessageId ≠ []) :
    s.shownThreads tenantId mailboxId ids =
      s.threadsByMessageId tenantId mailboxId internetMessageId := by
  induction ids with
  | nil => cases h
  | cons id rest ih =>
    rw [Db.firstCarried, List.find?_cons] at h
    by_cases hempty : s.carrierThreads env tenantId mailboxId id = []
    · have hnone : s.threadsByMessageId tenantId mailboxId id = [] := by
        refine List.eq_nil_iff_forall_not_mem.2 fun t ht => ?_
        have hcarried := mem_carrierThreads_of_mem hlower ht
        rw [hempty] at hcarried
        cases hcarried
      rw [Db.shownThreads, if_pos hnone]
      simp only [hempty, List.isEmpty_nil, Bool.not_true] at h
      exact ih h
    · have hcarried : (!(s.carrierThreads env tenantId mailboxId id).isEmpty) = true := by
        simpa using hempty
      rw [hcarried] at h
      obtain rfl := Option.some.inj h
      rw [Db.shownThreads, if_neg hshown]

/-- What is looked up under one identifier. -/
def pickThread (rows : List ThreadRow) : Option ThreadRow :=
  match rows with
  | [] => none
  | row :: others => if others.all fun r => r.id == row.id then some row else none

/-- **Search**: it goes by the first identifier that the query shows messages of. -/
theorem run_findThreadAmong :
    (findThreadAmong tenantId mailboxId ids).run s =
      (.ok (pickThread (s.shownThreads tenantId mailboxId ids)), s) := by
  induction ids with
  | nil => rfl
  | cons id rest ih =>
    have hquery : (query (.read .messages) fun s : Db =>
        s.threadsByMessageId tenantId mailboxId id).run s =
          (.ok (s.threadsByMessageId tenantId mailboxId id), s) := rfl
    rw [findThreadAmong, Prog.run_bind, hquery, Prog.andThen_ok, Db.shownThreads]
    rcases hrows : s.threadsByMessageId tenantId mailboxId id with _ | ⟨row, others⟩
    · rw [if_pos rfl]
      exact ih
    · rw [if_neg (List.cons_ne_nil _ _)]
      rfl

theorem isSome_pickThread {rows : List ThreadRow} :
    (pickThread rows).isSome = true ↔ rows ≠ [] ∧ OneThread rows := by
  cases rows with
  | nil => simp [pickThread]
  | cons row others =>
    rw [pickThread]
    split
    · next hall =>
      refine iff_of_true rfl ⟨List.cons_ne_nil _ _, ?_⟩
      have hsame : ∀ t ∈ row :: others, t.id = row.id := by
        intro t ht
        rcases List.mem_cons.1 ht with rfl | ht
        · rfl
        · simpa using List.all_eq_true.1 hall t ht
      intro t ht t' ht'
      exact (hsame t ht).trans (hsame t' ht').symm
    · next hall =>
      refine iff_of_false (by simp) fun hone => hall ?_
      refine List.all_eq_true.2 fun t ht => ?_
      simpa using hone.2 t (List.mem_cons_of_mem _ ht) row List.mem_cons_self

theorem mem_of_pickThread {rows : List ThreadRow} {t : ThreadRow} (h : pickThread rows = some t) :
    t ∈ rows := by
  cases rows with
  | nil => cases h
  | cons row others =>
    rw [pickThread] at h
    split at h
    · obtain rfl := Option.some.inj h
      exact List.mem_cons_self
    · cases h

/-- A thread in which a message of the mailbox lies is the mailbox's. -/
theorem own_of_mem_carrierThreads {t : ThreadRow}
    (h : t ∈ s.carrierThreads env tenantId mailboxId internetMessageId) :
    t ∈ s.threads ∧ t.tenantId = tenantId ∧ t.mailboxId = mailboxId := by
  obtain ⟨m, hm, ht⟩ := List.mem_filterMap.1 h
  have hcarries := (List.mem_filter.1 hm).2
  have hthread := List.find?_some ht
  simp only [Bool.and_eq_true, beq_iff_eq] at hcarries hthread
  obtain ⟨⟨hmailbox, htenant⟩, -⟩ := hcarries
  obtain ⟨⟨⟨-, htmailbox⟩, httenant⟩, -⟩ := hthread
  exact ⟨List.mem_of_find?_eq_some ht, httenant.trans htenant, htmailbox.trans hmailbox⟩

/-- Two messages of the mailbox that lie in threads of one identifier lie in one row. -/
theorem eq_of_mem_carrierThreads {id id' : String} {t t' : ThreadRow}
    (h : t ∈ s.carrierThreads env tenantId mailboxId id)
    (h' : t' ∈ s.carrierThreads env tenantId mailboxId id') (hid : t.id = t'.id) : t = t' := by
  obtain ⟨m, hm, ht⟩ := List.mem_filterMap.1 h
  obtain ⟨m', hm', ht'⟩ := List.mem_filterMap.1 h'
  have hcarries := (List.mem_filter.1 hm).2
  have hcarries' := (List.mem_filter.1 hm').2
  have hthread := List.find?_some ht
  have hthread' := List.find?_some ht'
  simp only [Bool.and_eq_true, beq_iff_eq] at hcarries hcarries' hthread hthread'
  have hsame : s.threadOf m = s.threadOf m' := by
    unfold Db.threadOf
    rw [hthread.1.1.1, hthread'.1.1.1, hid, hcarries.1.1, hcarries'.1.1, hcarries.1.2,
      hcarries'.1.2]
  exact Option.some.inj (ht.symm.trans (hsame.trans ht'))

end Search

/-! ### The result -/

section Result

variable {env : Env} {s : Db} {tenantId mailboxId id : String} {ids : List String}

/-- What is filed right tells what the two newest messages tell. -/
theorem Db.FilesRight.newestTell (hlower : LowersSql env)
    (hfirst : s.firstCarried env tenantId mailboxId ids = some id)
    (hright : s.FilesRight env tenantId mailboxId ids
      (pickThread (s.shownThreads tenantId mailboxId ids))) :
    s.NewestTell env tenantId mailboxId ids id := by
  obtain ⟨hiff, hsame⟩ := hright.found id hfirst
  rw [isSome_pickThread] at hiff
  by_cases hshown : s.threadsByMessageId tenantId mailboxId id = []
  · by_cases hone : OneThread (s.carrierThreads env tenantId mailboxId id)
    · obtain ⟨hne, hrows⟩ := hiff.2 hone
      obtain ⟨t, ht⟩ := Option.isSome_iff_exists.1 (isSome_pickThread.2 ⟨hne, hrows⟩)
      have hall : ∀ t' ∈ s.shownThreads tenantId mailboxId ids ++
          s.carrierThreads env tenantId mailboxId id, t'.id = t.id := by
        intro t' ht'
        rcases List.mem_append.1 ht' with ht' | ht'
        · exact hrows t' ht' t (mem_of_pickThread ht)
        · exact (hsame t ht).2 t' ht'
      exact .byAnother hshown hne fun t₁ h₁ t₂ h₂ => (hall t₁ h₁).trans (hall t₂ h₂).symm
    · refine .unshown hshown hone ?_
      by_cases hne : s.shownThreads tenantId mailboxId ids = []
      · exact .inl hne
      · exact .inr fun hrows => hone (hiff.1 ⟨hne, hrows⟩)
  · refine .shown hshown fun hrows => hiff.1 ?_
    rw [shownThreads_of_carried hlower hfirst hshown]
    exact ⟨hshown, hrows⟩

/-- The thread found, and those that the carriers lie in. -/
theorem Db.NewestTell.found (hlower : LowersSql env)
    (hfirst : s.firstCarried env tenantId mailboxId ids = some id)
    (htell : s.NewestTell env tenantId mailboxId ids id) :
    ((pickThread (s.shownThreads tenantId mailboxId ids)).isSome = true ↔
        OneThread (s.carrierThreads env tenantId mailboxId id)) ∧
      ∀ t ∈ pickThread (s.shownThreads tenantId mailboxId ids),
        t ∈ s.carrierThreads env tenantId mailboxId id ∧
          ∀ t' ∈ s.carrierThreads env tenantId mailboxId id, t'.id = t.id := by
  rw [isSome_pickThread]
  cases htell with
  | shown hshown htell =>
    rw [shownThreads_of_carried hlower hfirst hshown]
    have hiff : (s.threadsByMessageId tenantId mailboxId id ≠ [] ∧
        OneThread (s.threadsByMessageId tenantId mailboxId id)) ↔
          OneThread (s.carrierThreads env tenantId mailboxId id) :=
      ⟨fun h => htell h.2, fun hone => ⟨hshown, fun t ht t' ht' => hone t
        (mem_carrierThreads_of_mem hlower ht) t' (mem_carrierThreads_of_mem hlower ht')⟩⟩
    refine ⟨hiff, fun t ht => ?_⟩
    have hmem := mem_carrierThreads_of_mem hlower (mem_of_pickThread ht)
    have hone := hiff.1 (isSome_pickThread.1 (Option.isSome_iff_exists.2 ⟨t, ht⟩))
    exact ⟨hmem, fun t' ht' => hone t' ht' t hmem⟩
  | unshown hnone hseveral hothers =>
    have hnot : ¬ (s.shownThreads tenantId mailboxId ids ≠ [] ∧
        OneThread (s.shownThreads tenantId mailboxId ids)) := fun h =>
      hothers.elim h.1 fun hrows => hrows h.2
    exact ⟨iff_of_false hnot hseveral, fun t ht =>
      absurd (isSome_pickThread.1 (Option.isSome_iff_exists.2 ⟨t, ht⟩)) hnot⟩
  | byAnother hnone hother hone =>
    have hcarriers : OneThread (s.carrierThreads env tenantId mailboxId id) := fun t ht t' ht' =>
      hone t (List.mem_append_right _ ht) t' (List.mem_append_right _ ht')
    have hrows : OneThread (s.shownThreads tenantId mailboxId ids) := fun t ht t' ht' =>
      hone t (List.mem_append_left _ ht) t' (List.mem_append_left _ ht')
    refine ⟨iff_of_true ⟨hother, hrows⟩ hcarriers, fun t ht => ?_⟩
    have hmem := mem_of_pickThread ht
    have hsame : ∀ t' ∈ s.carrierThreads env tenantId mailboxId id, t'.id = t.id := fun t' ht' =>
      hone t' (List.mem_append_right _ ht') t (List.mem_append_left _ hmem)
    -- a carrier lies in the row of that identifier, and there is a carrier
    obtain ⟨t', ht'⟩ : ∃ t', t' ∈ s.carrierThreads env tenantId mailboxId id := by
      have hcarried := List.find?_some hfirst
      refine List.exists_mem_of_ne_nil _ fun hnil => ?_
      simp [hnil] at hcarried
    obtain ⟨other, hshown⟩ := mem_shownThreads hmem
    obtain rfl := eq_of_mem_carrierThreads ht' (mem_carrierThreads_of_mem hlower hshown)
      (hsame t' ht')
    exact ⟨ht', hsame⟩

end Result

/-- **The reply is filed right** if and only if the two newest of the messages that carry the
first identifier that is carried tell what all of them do. -/
theorem filesRight_iff_newestTell (env : Env) (hlower : LowersSql env) (s : Db)
    (tenantId mailboxId : String) (internetMessageIds : List String) :
    ∃ found, (findThreadByInternetMessageIds env tenantId mailboxId internetMessageIds).run s =
        (.ok found, s) ∧
      (s.FilesRight env tenantId mailboxId (referencedIds env internetMessageIds) found ↔
        ∀ id ∈ s.firstCarried env tenantId mailboxId (referencedIds env internetMessageIds),
          s.NewestTell env tenantId mailboxId (referencedIds env internetMessageIds) id) := by
  refine ⟨_, run_findThreadAmong, ?_⟩
  rw [← referencedIds]
  generalize referencedIds env internetMessageIds = ids
  refine ⟨fun hright id hid => hright.newestTell hlower hid, fun htell => ⟨fun t ht => ?_,
    fun hnone => ?_, fun id hid => (htell id hid).found hlower hid⟩⟩
  · obtain ⟨id, hshown⟩ := mem_shownThreads (mem_of_pickThread ht)
    exact own_of_mem_carrierThreads (mem_carrierThreads_of_mem hlower hshown)
  · rw [shownThreads_of_uncarried hlower hnone]
    rfl

/-- `toLowerCase` of the letters of ASCII and of one more. -/
def lowerAccent (c : Char) : Char := if c = 'É' then 'é' else c.toLower

/-- An environment with that `toLowerCase`. -/
def accentEnv : Env :=
  { Env.bare with toLowerCase := fun s => String.ofList (s.toList.map lowerAccent) }

theorem lowerAccent_toLower (c : Char) : lowerAccent c.toLower = lowerAccent c := by
  unfold lowerAccent
  rw [toLower_toLower]
  rcases toLower_cases c with ⟨h, -⟩ | ⟨hlow, hhigh, h⟩
  · rw [h]
  · -- neither a letter of ASCII nor its capital is the accented one
    have hcapital : ('É' : Char).toNat = 201 := rfl
    have hc : c ≠ 'É' := by
      rintro rfl
      omega
    have hlower : c.toLower ≠ 'É' := by
      intro heq
      rw [heq] at h
      omega
    rw [if_neg hc, if_neg hlower]

theorem lowersSql_accentEnv : LowersSql accentEnv := by
  intro s
  show String.ofList ((s.map Char.toLower).toList.map lowerAccent) =
    String.ofList (s.toList.map lowerAccent)
  rw [String.toList_map, List.map_map]
  congr 2
  exact funext lowerAccent_toLower

/-- An inbound message with an identifier, in a thread. -/
def threadedRow (id internetMessageId threadId : String) (createdAt : Nat) : MessageRow where
  id := id
  tenantId := "t"
  mailboxId := "mbx"
  threadId := some threadId
  direction := .inbound
  provider := .cloudflare
  internetMessageId := some internetMessageId
  providerMessageId := none
  fromAddr := "c@d"
  toAddr := "a@b"
  subject := none
  snippet := none
  status := .normalized
  rawR2Key := none
  normalizedR2Key := none
  receivedAt := none
  sentAt := none
  createdAt := createdAt

/-- A mailbox with two threads. -/
def threadedDb (messages : List MessageRow) : Db where
  mailboxes := [⟨"mbx", "t", "a@b", "active"⟩]
  threads := [⟨"thr1", "t", "mbx", "k1", none⟩, ⟨"thr2", "t", "mbx", "k2", none⟩]
  messages := messages

/-- Two messages of one thread, with one identifier in different cases. -/
def casedDb : Db :=
  threadedDb [threadedRow "msg1" "<A@d>" "thr1" 1, threadedRow "msg2" "<a@d>" "thr1" 2]

/-- A reply to the identifier is filed in that thread. -/
theorem filesRight_casedDb : ∃ found,
    (findThreadByInternetMessageIds accentEnv "t" "mbx" ["<a@d>"]).run casedDb =
      (.ok found, casedDb) ∧
    casedDb.FilesRight accentEnv "t" "mbx" (referencedIds accentEnv ["<a@d>"]) found := by
  obtain ⟨found, hrun, hiff⟩ := filesRight_iff_newestTell accentEnv lowersSql_accentEnv casedDb
    "t" "mbx" ["<a@d>"]
  have hfirst : casedDb.firstCarried accentEnv "t" "mbx" (referencedIds accentEnv ["<a@d>"]) =
      some "<a@d>" := by
    decide +kernel
  refine ⟨found, hrun, hiff.2 fun id hid => ?_⟩
  rw [hfirst] at hid
  obtain rfl := Option.some.inj hid
  exact .shown (by decide +kernel) fun _ => by decide +kernel

/-- Three messages with one identifier, the oldest in a thread of its own. -/
def shadowedDb : Db :=
  threadedDb [threadedRow "msg1" "<a@d>" "thr1" 1, threadedRow "msg2" "<a@d>" "thr2" 2,
    threadedRow "msg3" "<a@d>" "thr2" 3]

/-- A message stored under an identifier with a capital outside ASCII. -/
def accentedDb : Db := threadedDb [threadedRow "msg1" "<É@d>" "thr1" 1]

/-- A reply to the identifier of the three is filed with the two newest, and one to the identifier
of the message stored with a capital is not filed with it. -/
theorem ambiguous_reply_filed :
    ((findThreadByInternetMessageIds accentEnv "t" "mbx" ["<a@d>"]).run shadowedDb =
        (.ok (some ⟨"thr2", "t", "mbx", "k2", none⟩), shadowedDb) ∧
      ¬ shadowedDb.FilesRight accentEnv "t" "mbx" (referencedIds accentEnv ["<a@d>"])
        (some ⟨"thr2", "t", "mbx", "k2", none⟩)) ∧
    (findThreadByInternetMessageIds accentEnv "t" "mbx" ["<É@d>"]).run accentedDb =
        (.ok none, accentedDb) ∧
      ¬ accentedDb.FilesRight accentEnv "t" "mbx" (referencedIds accentEnv ["<É@d>"]) none := by
  have hfirst : shadowedDb.firstCarried accentEnv "t" "mbx" (referencedIds accentEnv ["<a@d>"]) =
      some "<a@d>" := by
    decide +kernel
  have htwo : ¬ OneThread (shadowedDb.carrierThreads accentEnv "t" "mbx" "<a@d>") := by
    decide +kernel
  have hpick : pickThread (shadowedDb.shownThreads "t" "mbx" (referencedIds accentEnv ["<a@d>"])) =
      some ⟨"thr2", "t", "mbx", "k2", none⟩ := by
    decide +kernel
  have hcapital : accentedDb.firstCarried accentEnv "t" "mbx" (referencedIds accentEnv ["<É@d>"]) =
      some "<é@d>" := by
    decide +kernel
  have hone : OneThread (accentedDb.carrierThreads accentEnv "t" "mbx" "<é@d>") := by
    decide +kernel
  have hnone : pickThread (accentedDb.shownThreads "t" "mbx" (referencedIds accentEnv ["<É@d>"])) =
      none := by
    decide +kernel
  refine ⟨⟨?_, fun hright => htwo ((hright.found "<a@d>" hfirst).1.1 rfl)⟩, ?_, fun hright => ?_⟩
  · rw [findThreadByInternetMessageIds, ← referencedIds, run_findThreadAmong, hpick]
  · rw [findThreadByInternetMessageIds, ← referencedIds, run_findThreadAmong, hnone]
  · cases (hright.found "<é@d>" hcapital).1.2 hone

end MailRuntime
