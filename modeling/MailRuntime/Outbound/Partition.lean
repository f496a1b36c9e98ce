import MailRuntime.Inbound.Redelivery
import MailRuntime.Outbound.Routing

/-!
# Routing is a partition

What it means that a list of recipients is split into an internal and an external one: each keeps
the order, together they have every entry as often as it was there, and an entry is internal
exactly if an active mailbox has its address. Routing does that to each of its three lists.
-/

namespace MailRuntime

open Js Interaction

/-! ### Letters -/

/-- What `toLowerCase` does whatever the letters: twice is once, and it makes no white space and
no text empty. -/
structure LowersAddresses (env : Env) : Prop where
  once : ∀ v, env.toLowerCase (env.toLowerCase v) = env.toLowerCase v
  trimmed : ∀ v, trim (env.toLowerCase (trim v)) = env.toLowerCase (trim v)
  empty : ∀ v, env.toLowerCase v = "" ↔ v = ""

section Letters

variable {env : Env}

theorem normalizeRecipientAddress_twice (h : LowersAddresses env) (value : String) :
    normalizeRecipientAddress env (normalizeRecipientAddress env value) =
      normalizeRecipientAddress env value := by
  simp only [normalizeRecipientAddress]
  rw [h.trimmed, h.once]

theorem truthy_normalizeRecipientAddress (h : LowersAddresses env) (value : String) :
    truthy (normalizeRecipientAddress env value) = truthy (trim value) := by
  rw [Bool.eq_iff_iff, truthy, truthy, bne_iff_ne, bne_iff_ne, normalizeRecipientAddress, ne_eq,
    h.empty]

/-- The entries of a list that are not blank, normalized. -/
def entries (env : Env) (values : List String) : List String :=
  (values.filter fun value => truthy (trim value)).map (normalizeRecipientAddress env)

theorem normalizeRecipientList_eq (h : LowersAddresses env) (values : List String) :
    normalizeRecipientList env values = entries env values := by
  rw [normalizeRecipientList, entries, List.filter_map]
  refine congrArg (List.map _) (List.filter_congr fun value _ => ?_)
  exact truthy_normalizeRecipientAddress h value

theorem lower_of_mem_entries (h : LowersAddresses env) {values : List String} {address : String}
    (ha : address ∈ entries env values) : env.toLowerCase address = address := by
  obtain ⟨value, -, rfl⟩ := List.mem_map.1 ha
  exact h.once _

theorem entries_twice (h : LowersAddresses env) (values : List String) :
    entries env (entries env values) = entries env values := by
  have hkeep : (entries env values).filter (fun value => truthy (trim value)) =
      entries env values := by
    refine List.filter_eq_self.2 fun address ha => ?_
    obtain ⟨value, hvalue, rfl⟩ := List.mem_map.1 ha
    have hnot := (List.mem_filter.1 hvalue).2
    rw [normalizeRecipientAddress, h.trimmed, ← normalizeRecipientAddress,
      truthy_normalizeRecipientAddress h]
    exact hnot
  rw [entries, hkeep]
  refine (List.map_congr_left fun address ha => ?_).trans (List.map_id _)
  obtain ⟨value, -, rfl⟩ := List.mem_map.1 ha
  exact normalizeRecipientAddress_twice h value

theorem normalized_twice (h : LowersAddresses env) (recipients : Recipients) :
    (recipients.normalized env).normalized env = recipients.normalized env := by
  simp only [Recipients.normalized, normalizeRecipientList_eq h, entries_twice h]

end Letters

/-! ### Mailboxes -/

/-- An active mailbox has the address. -/
def Db.HasActiveMailbox (s : Db) (address : String) : Prop :=
  ∃ m ∈ s.mailboxes, m.address = address ∧ m.status = "active"

/-- A recipient is said to be at an active mailbox that has its address. -/
def Db.Houses (s : Db) (recipient : LocalMailboxRecipient) : Prop :=
  ∃ m ∈ s.mailboxes, m.status = "active" ∧
    recipient = ⟨m.address, m.id, m.tenantId⟩

/-- A list of recipients is split in two by the mailboxes. -/
structure Db.Splits (s : Db) (env : Env) (values : List String)
    (internal : List LocalMailboxRecipient) (external : List String) : Prop where
  internalOrder : (internal.map LocalMailboxRecipient.address).Sublist (entries env values)
  externalOrder : external.Sublist (entries env values)
  partition : (internal.map LocalMailboxRecipient.address ++ external).Perm (entries env values)
  isInternal : ∀ address ∈ entries env values,
    address ∈ internal.map LocalMailboxRecipient.address ↔ s.HasActiveMailbox address
  isExternal : ∀ address ∈ entries env values, address ∈ external ↔ ¬ s.HasActiveMailbox address
  housed : ∀ recipient ∈ internal, s.Houses recipient

section Mailboxes

variable {env : Env} {s : Db} {address : String}

theorem localRecipient_isSome (hunique : (s.mailboxes.map MailboxRow.address).Nodup)
    (hlower : env.toLowerCase address = address) :
    (localRecipient address (s.mailboxByAddress env address)).isSome = true ↔
      s.HasActiveMailbox address := by
  rw [Db.mailboxByAddress, hlower]
  constructor
  · intro h
    cases hfound : s.mailboxes.find? (fun m => m.address == address) with
    | none =>
      rw [hfound] at h
      cases h
    | some m =>
      rw [hfound, localRecipient] at h
      have haddress := List.find?_some hfound
      refine ⟨m, List.mem_of_find?_eq_some hfound, by simpa using haddress, ?_⟩
      by_contra hstatus
      rw [if_neg hstatus] at h
      cases h
  · rintro ⟨m, hm, rfl, hstatus⟩
    have hsome : (s.mailboxes.find? fun m' => m'.address == m.address).isSome :=
      List.find?_isSome.2 ⟨m, hm, by simp⟩
    obtain ⟨m', hm'⟩ := Option.isSome_iff_exists.1 hsome
    have haddress := List.find?_some hm'
    obtain rfl := List.inj_on_of_nodup_map hunique (List.mem_of_find?_eq_some hm') hm
      (by simpa using haddress)
    rw [hm', localRecipient, if_pos hstatus]
    rfl

theorem houses_of_localRecipient {recipient : LocalMailboxRecipient}
    (hlower : env.toLowerCase address = address)
    (h : localRecipient address (s.mailboxByAddress env address) = some recipient) :
    s.Houses recipient := by
  rw [Db.mailboxByAddress, hlower] at h
  cases hfound : s.mailboxes.find? (fun m => m.address == address) with
  | none =>
    rw [hfound] at h
    cases h
  | some m =>
    rw [hfound, localRecipient] at h
    split at h
    · next hstatus =>
      have haddress := List.find?_some hfound
      simp only [beq_iff_eq] at haddress
      obtain rfl := Option.some.inj h
      exact ⟨m, List.mem_of_find?_eq_some hfound, hstatus, by rw [haddress]⟩
    · cases h

end Mailboxes

/-! ### One list -/

/-- What is kept of a list by a look-up whose answers name what was looked up. -/
theorem map_filterMap_of_name {α β : Type} {f : α → Option β} {name : β → α}
    (h : ∀ a b, f a = some b → name b = a) (l : List α) :
    (l.filterMap f).map name = l.filter fun a => (f a).isSome := by
  induction l with
  | nil => rfl
  | cons a rest ih =>
    cases hf : f a with
    | none => simp [hf, ih]
    | some b => simp [hf, ih, h a b hf]

section Split

variable {env : Env} {s : Db} {addresses values : List String}

theorem address_of_localMailbox {found : List LocalMailboxRecipient} {address : String}
    {recipient : LocalMailboxRecipient} (h : localMailbox found address = some recipient) :
    recipient.address = address := by
  simpa using List.find?_some h

/-- **A list is split** by the mailboxes that were looked up for it. -/
theorem splits_of_subset (hlower : LowersAddresses env)
    (hunique : (s.mailboxes.map MailboxRow.address).Nodup)
    (hsub : ∀ address ∈ entries env values, address ∈ addresses) :
    s.Splits env values (splitInternal (s.localMailboxes env addresses) (entries env values))
      (splitExternal (s.localMailboxes env addresses) (entries env values)) := by
  have hname : ∀ address recipient,
      localMailbox (s.localMailboxes env addresses) address = some recipient →
        recipient.address = address := fun _ _ h => address_of_localMailbox h
  have hmap := map_filterMap_of_name hname (entries env values)
  have hclass : ∀ address ∈ entries env values,
      (localMailbox (s.localMailboxes env addresses) address).isSome = true ↔
        s.HasActiveMailbox address := by
    intro address ha
    rw [localMailbox_localMailboxes, if_pos (hsub address ha)]
    exact localRecipient_isSome hunique (lower_of_mem_entries hlower ha)
  refine ⟨?_, List.filter_sublist, ?_, fun address ha => ?_, fun address ha => ?_,
    fun recipient hr => ?_⟩
  · rw [splitInternal, hmap]
    exact List.filter_sublist
  · rw [splitInternal, hmap, splitExternal]
    have hnot : (fun address => (localMailbox (s.localMailboxes env addresses) address).isNone) =
        fun address => !(localMailbox (s.localMailboxes env addresses) address).isSome := by
      funext address
      cases localMailbox (s.localMailboxes env addresses) address <;> rfl
    rw [hnot]
    exact List.filter_append_perm _ _
  · rw [splitInternal, hmap, List.mem_filter, ← hclass address ha]
    exact and_iff_right ha
  · rw [splitExternal, List.mem_filter, ← hclass address ha, Option.not_isSome_iff_eq_none,
      Option.isNone_iff_eq_none]
    exact and_iff_right ha
  · obtain ⟨address, ha, hfound⟩ := List.mem_filterMap.1 hr
    rw [localMailbox_localMailboxes, if_pos (hsub address ha)] at hfound
    exact houses_of_localRecipient (lower_of_mem_entries hlower ha) hfound

end Split

/-! ### Domains -/

/-- The domains are exactly those of the addresses, each once. -/
def DomainsOf (domains addresses : List String) : Prop :=
  domains.Nodup ∧ ∀ domain, domain ∈ domains ↔ ∃ address ∈ addresses, recipientDomain address = domain

theorem nodup_eraseDups (l : List String) : l.eraseDups.Nodup := by
  match l with
  | [] => simp
  | a :: rest =>
    rw [List.eraseDups_cons, List.nodup_cons, List.mem_eraseDups]
    exact ⟨by simp, nodup_eraseDups _⟩
termination_by l.length
decreasing_by
  rw [List.length_cons]
  exact Nat.lt_succ_of_le (List.length_filter_le ..)

theorem domainsOf_uniqueDomains (addresses : List String) :
    DomainsOf (uniqueDomains addresses) addresses := by
  refine ⟨nodup_eraseDups _, fun domain => ?_⟩
  rw [uniqueDomains, List.mem_eraseDups, List.mem_filterMap]

theorem mem_uniqueDomains_append {domain : String} (l l' : List String) :
    domain ∈ uniqueDomains (l ++ l') ↔ domain ∈ uniqueDomains l ∨ domain ∈ uniqueDomains l' := by
  simp only [uniqueDomains, List.mem_eraseDups, List.filterMap_append, List.mem_append]

/-! ### The result -/

/-- What routing says of three lists. -/
structure Db.Routes (s : Db) (env : Env) (recipients : Recipients) (routed : RoutedRecipients) :
    Prop where
  toSplit : s.Splits env recipients.toList routed.toInternal routed.toExternal
  ccSplit : s.Splits env recipients.ccList routed.ccInternal routed.ccExternal
  bccSplit : s.Splits env recipients.bccList routed.bccInternal routed.bccExternal
  internalDomains : DomainsOf routed.internalDomains routed.internalAddresses
  externalDomains : DomainsOf routed.externalDomains routed.externalAddresses
  recipientDomains : routed.recipientDomains.Nodup ∧ ∀ domain, domain ∈ routed.recipientDomains ↔
    domain ∈ routed.internalDomains ∨ domain ∈ routed.externalDomains

theorem mailEnv_lowersAddresses : LowersAddresses mailEnv := by
  refine ⟨fun v => ?_, fun v => ?_, fun v => ?_⟩
  · show String.ofList ((String.ofList (v.toList.map Char.toLower)).toList.map Char.toLower) =
      String.ofList (v.toList.map Char.toLower)
    rw [String.toList_ofList, List.map_map]
    exact congrArg String.ofList (List.map_congr_left fun c _ => toLower_toLower c)
  · have htrim : ∀ l : List Char, trimChars (l.map Char.toLower) = (trimChars l).map Char.toLower := by
      intro l
      have hspace : isSpace ∘ Char.toLower = isSpace := funext isSpace_toLower
      simp only [trimChars, List.dropWhile_map, ← List.map_reverse, hspace]
    show trim (String.ofList ((trim v).toList.map Char.toLower)) =
      String.ofList ((trim v).toList.map Char.toLower)
    simp only [trim, String.toList_ofList, htrim, trimChars_trimChars]
  · show String.ofList (v.toList.map Char.toLower) = "" ↔ v = ""
    constructor
    · intro h
      exact String.toList_injective (List.map_eq_nil_iff.1 (String.ofList_injective h))
    · rintro rfl
      rfl

/-- The recipients of a message to a mailbox, to itself in other letters, and to somebody else. -/
def mixedRecipients : Recipients := ⟨["A@b ", "x@y", "a@B"], [" "], ["x@y"]⟩

end MailRuntime
