import MailRuntime.Interaction.Faults
import MailRuntime.Repositories.Inbound

/-!
# The attachments of a message, all or nothing

`insertAttachments` deletes the rows of a message, inserts the new ones one by one, and puts
the old ones back when an insert fails. Wherever that happens, whether the insert was refused
or only its answer lost, the rows of the message are those from before, in some order.
-/

namespace MailRuntime

open Interaction Js

/-- The rows of the message's attachments. -/
def Db.attachmentsOf (s : Db) (messageId : String) : List AttachmentRow :=
  s.attachments.filter fun a => a.messageId == messageId

/-- The rows of the attachments of all other messages. -/
def Db.otherAttachments (s : Db) (messageId : String) : List AttachmentRow :=
  s.attachments.filter fun a => !(a.messageId == messageId)

/-- What `insertAttachments` was given for a row. -/
def AttachmentRow.input (row : AttachmentRow) : AttachmentInput where
  id := row.id
  filename := row.filename
  contentType := row.contentType
  sizeBytes := row.sizeBytes
  r2Key := row.r2Key
  sha256 := row.sha256

/-- The attachments of the message are `rows`, and those of other messages are as before. -/
structure Db.Replaces (s s' : Db) (messageId : String) (rows : List AttachmentRow) : Prop where
  rows : (s'.attachmentsOf messageId).Perm rows
  others : s'.otherAttachments messageId = s.otherAttachments messageId

/-- All that has changed is that the message has these rows besides. -/
structure Db.Appends (s s' : Db) (messageId : String) (rows : List AttachmentRow) : Prop where
  eq : s' = { s with attachments := s.attachments ++ rows, draws := s'.draws }
  ofMessage : ∀ row ∈ rows, row.messageId = messageId

variable {s s' s'' : Db} {messageId : String} {rows rows' : List AttachmentRow}

theorem Db.Appends.refl (s : Db) (messageId : String) : s.Appends s messageId [] :=
  ⟨by simp, by simp⟩

theorem Db.Appends.trans (h : s.Appends s' messageId rows) (h' : s'.Appends s'' messageId rows') :
    s.Appends s'' messageId (rows ++ rows') := by
  constructor
  · rw [h'.eq, h.eq]
    simp
  · intro row hrow
    obtain hrow | hrow := List.mem_append.1 hrow
    · exact h.ofMessage row hrow
    · exact h'.ofMessage row hrow

theorem Db.Appends.others (h : s.Appends s' messageId rows) :
    s'.otherAttachments messageId = s.otherAttachments messageId := by
  have hnone : rows.filter (fun a => !(a.messageId == messageId)) = [] := by
    rw [List.filter_eq_nil_iff]
    intro row hrow
    simp [h.ofMessage row hrow]
  rw [h.eq, Db.otherAttachments, Db.otherAttachments, List.filter_append, hnone, List.append_nil]

theorem Db.Appends.message (h : s.Appends s' messageId rows) :
    s'.message messageId = s.message messageId := by
  rw [h.eq]
  rfl

/-! ### What the statements do -/

theorem run_deleteAttachmentsOf (s : Db) (messageId : String) :
    (deleteAttachmentsOf messageId).run s =
      (.ok (), { s with attachments := s.otherAttachments messageId }) := rfl

theorem run_insertAttachmentRow (l : Label) (row : AttachmentRow) (s : Db) :
    (insertAttachmentRow l row).run s =
      if row.id ∈ s.attachments.map AttachmentRow.id then (.error Exn.unique, s)
      else (.ok (), { s with attachments := s.attachments ++ [row] }) := by
  have hfree : (!s.attachments.any fun a => a.id == row.id) =
      decide (row.id ∉ s.attachments.map AttachmentRow.id) := by
    rw [Bool.eq_iff_iff]
    simp only [Bool.not_eq_true', List.any_eq_false, beq_iff_eq, decide_eq_true_eq, List.mem_map,
      not_exists, not_and]
  unfold insertAttachmentRow insertRow
  rw [Prog.run_bind]
  simp only [execute, Prog.run_perform, hfree, decide_eq_true_eq]
  by_cases h : row.id ∈ s.attachments.map AttachmentRow.id
  · simp [h, Prog.andThen]
  · simp only [h]
    rfl

/-- An insert that is struck throws, and has appended its row at most. -/
theorem strikes_insertAttachmentRow {l : Label} {row : AttachmentRow} {s : Db}
    {x : Strike Db Label Exn Unit} (hx : x ∈ (insertAttachmentRow l row).strikes s) :
    x.label = l ∧ x.refused = (.error Exn.d1, s) ∧
      (x.lost = (.error Exn.d1, s) ∨
        x.lost = (.error Exn.d1, { s with attachments := s.attachments ++ [row] })) := by
  unfold insertAttachmentRow insertRow at hx
  obtain ⟨y, hy, rfl⟩ | ⟨changes, s', -, hx⟩ := Prog.mem_strikes_bind hx
  · obtain rfl := List.mem_singleton.1 hy
    refine ⟨rfl, rfl, ?_⟩
    show ((Except.error Exn.d1 : Except Exn Unit), (if (!s.attachments.any fun a => a.id == row.id)
        then (1, attachmentRows.inserted s row) else (0, s)).2) = (.error Exn.d1, s) ∨
      ((Except.error Exn.d1 : Except Exn Unit), (if (!s.attachments.any fun a => a.id == row.id)
        then (1, attachmentRows.inserted s row) else (0, s)).2) =
          (.error Exn.d1, { s with attachments := s.attachments ++ [row] })
    split
    · exact .inr rfl
    · exact .inl rfl
  · split at hx <;> cases hx

/-- Rows whose identifiers are new can be put back. -/
theorem run_restoreAttachments (h : ((s.attachments ++ rows).map AttachmentRow.id).Nodup) :
    (restoreAttachments rows).run s =
      (.ok (), { s with attachments := s.attachments ++ rows }) := by
  induction rows generalizing s with
  | nil => simp [restoreAttachments]
  | cons row rows ih =>
    have hnew : row.id ∉ s.attachments.map AttachmentRow.id := by
      intro hmem
      rw [List.map_append, List.nodup_append] at h
      exact h.2.2 row.id hmem row.id (by simp) rfl
    unfold restoreAttachments
    rw [Prog.run_bind, run_insertAttachmentRow, if_neg hnew, Prog.andThen_ok, ih (by simpa using h)]
    simp

/-- The loop appends rows of the message until an insert breaks a unique constraint. -/
theorem run_insertNewAttachments (env : Env) (messageId : String)
    (attachments : List AttachmentInput) (s : Db) :
    ∃ s' rows, s.Appends s' messageId rows ∧
      ((insertNewAttachments env messageId attachments).run s = (.error Exn.unique, s') ∨
        (insertNewAttachments env messageId attachments).run s = (.ok (), s') ∧
          rows.map AttachmentRow.input = attachments) := by
  induction attachments generalizing s with
  | nil => exact ⟨s, [], .refl s messageId, .inr ⟨rfl, rfl⟩⟩
  | cons input rest ih =>
    have hdraw : s.Appends { s with draws := s.draws + 1 } messageId [] := ⟨by simp, by simp⟩
    unfold insertNewAttachments
    rw [Prog.run_bind, run_nowIso, Prog.andThen_ok, Prog.run_bind, run_insertAttachmentRow]
    split
    · exact ⟨_, [], hdraw, .inl rfl⟩
    · have happend : s.Appends { s with
          attachments := s.attachments ++ [input.row messageId (env.clock s.draws)],
          draws := s.draws + 1 } messageId [input.row messageId (env.clock s.draws)] := by
        refine ⟨rfl, ?_⟩
        rintro row hrow
        obtain rfl := List.mem_singleton.1 hrow
        rfl
      obtain ⟨s', rows, hrest, hrun⟩ := ih { s with
        attachments := s.attachments ++ [input.row messageId (env.clock s.draws)],
        draws := s.draws + 1 }
      refine ⟨s', _, happend.trans hrest, ?_⟩
      rw [Prog.andThen_ok]
      obtain hrun | ⟨hrun, hrows⟩ := hrun
      · exact .inl hrun
      · refine .inr ⟨hrun, ?_⟩
        rw [List.map_append, hrows]
        rfl

/-- A strike of the loop is at an insert, and has appended rows of the message when it throws. -/
theorem strikes_insertNewAttachments (env : Env) (messageId : String)
    (attachments : List AttachmentInput) (s : Db) :
    ∀ x ∈ (insertNewAttachments env messageId attachments).strikes s,
      (∃ s' rows, s.Appends s' messageId rows ∧ x.refused = (.error Exn.d1, s')) ∧
      ∃ s' rows, s.Appends s' messageId rows ∧ x.lost = (.error Exn.d1, s') := by
  induction attachments generalizing s with
  | nil =>
    intro x hx
    cases hx
  | cons input rest ih =>
    intro x hx
    unfold insertNewAttachments at hx
    obtain ⟨y, hy, rfl⟩ | ⟨createdAt, s', hrun, hx⟩ := Prog.mem_strikes_bind hx
    · cases hy
    · rw [run_nowIso] at hrun
      cases hrun
      have hdraw : s.Appends { s with draws := s.draws + 1 } messageId [] := ⟨by simp, by simp⟩
      have hone : ∀ createdAt, s.Appends { s with
          attachments := s.attachments ++ [input.row messageId createdAt],
          draws := s.draws + 1 } messageId [input.row messageId createdAt] := by
        intro createdAt
        refine ⟨rfl, ?_⟩
        rintro row hrow
        obtain rfl := List.mem_singleton.1 hrow
        rfl
      obtain ⟨y, hy, rfl⟩ | ⟨inserted, s', hrun, hx⟩ := Prog.mem_strikes_bind hx
      · obtain ⟨-, hrefused, hlost⟩ := strikes_insertAttachmentRow hy
        constructor
        · refine ⟨_, [], hdraw, ?_⟩
          simp [Strike.andThen, hrefused]
        · obtain hlost | hlost := hlost
          · refine ⟨_, [], hdraw, ?_⟩
            simp [Strike.andThen, hlost]
          · refine ⟨_, _, hone (env.clock s.draws), ?_⟩
            simp only [Strike.andThen, hlost, Prog.andThen_error]
      · rw [run_insertAttachmentRow] at hrun
        split at hrun
        · cases hrun
        · cases hrun
          obtain ⟨⟨s₁, rows₁, h₁, hrefused⟩, s₂, rows₂, h₂, hlost⟩ := ih _ x hx
          exact ⟨⟨s₁, _, (hone _).trans h₁, hrefused⟩, s₂, _, (hone _).trans h₂, hlost⟩

/-! ### Recovery -/

/-- The handler of `insertAttachments`. -/
def putBack (messageId : String) (existingRows : List AttachmentRow) (error : Exn) : Op Unit := do
  deleteAttachmentsOf messageId
  restoreAttachments existingRows
  throw error

/-- The identifiers of the other rows and of those that were there are distinct. -/
theorem nodup_restored (h : (s.attachments.map AttachmentRow.id).Nodup)
    (hothers : s'.otherAttachments messageId = s.otherAttachments messageId) :
    ((s'.otherAttachments messageId ++ byCreatedAt (s.attachmentsOf messageId)).map
      AttachmentRow.id).Nodup := by
  have hsplit : (s.otherAttachments messageId ++ byCreatedAt (s.attachmentsOf messageId)).Perm
      s.attachments := by
    refine (List.Perm.append_left _ (List.perm_insertionSort _ _)).trans ?_
    exact List.perm_append_comm.trans (List.filter_append_perm _ _)
  rw [hothers, (hsplit.map AttachmentRow.id).nodup_iff]
  exact h

/-- The handler puts the old rows back, and throws what it caught. -/
theorem run_putBack (error : Exn) (h : (s.attachments.map AttachmentRow.id).Nodup)
    (hothers : s'.otherAttachments messageId = s.otherAttachments messageId) :
    ∃ s'', (putBack messageId (byCreatedAt (s.attachmentsOf messageId)) error).run s' =
        (.error error, s'') ∧ s.Replaces s'' messageId (s.attachmentsOf messageId) := by
  have hids := nodup_restored h hothers
  have hrestore : (restoreAttachments (byCreatedAt (s.attachmentsOf messageId))).run
      { s' with attachments := s'.otherAttachments messageId } =
      (.ok (), { s' with attachments :=
        s'.otherAttachments messageId ++ byCreatedAt (s.attachmentsOf messageId) }) :=
    run_restoreAttachments hids
  have hmine : ∀ row ∈ byCreatedAt (s.attachmentsOf messageId), row.messageId = messageId := by
    intro row hrow
    have hmem := ((List.perm_insertionSort _ _).mem_iff.1 hrow)
    simpa using (List.mem_filter.1 hmem).2
  refine ⟨{ s' with attachments :=
    s'.otherAttachments messageId ++ byCreatedAt (s.attachmentsOf messageId) }, ?_, ?_, ?_⟩
  · unfold putBack
    rw [Prog.run_bind, run_deleteAttachmentsOf, Prog.andThen_ok, Prog.run_bind, hrestore,
      Prog.andThen_ok]
    rfl
  · have hnone : (s'.otherAttachments messageId).filter (fun a => a.messageId == messageId) = [] := by
      rw [List.filter_eq_nil_iff]
      intro row hrow
      simpa using (List.mem_filter.1 hrow).2
    have hall : (byCreatedAt (s.attachmentsOf messageId)).filter
        (fun a => a.messageId == messageId) = byCreatedAt (s.attachmentsOf messageId) := by
      rw [List.filter_eq_self]
      intro row hrow
      simp [hmine row hrow]
    rw [Db.attachmentsOf, List.filter_append, hnone, hall, List.nil_append]
    exact List.perm_insertionSort _ _
  · have hall : (s'.otherAttachments messageId).filter (fun a => !(a.messageId == messageId)) =
        s'.otherAttachments messageId := by
      rw [Db.otherAttachments, List.filter_filter]
      simp only [Bool.and_self]
    have hnone : (byCreatedAt (s.attachmentsOf messageId)).filter
        (fun a => !(a.messageId == messageId)) = [] := by
      rw [List.filter_eq_nil_iff]
      intro row hrow
      simp [hmine row hrow]
    rw [← hothers, Db.otherAttachments, List.filter_append, hnone, hall, List.append_nil]

/-! ### Which statements insert new attachments -/

/-- The statement inserts the row of a new attachment. -/
def Label.insertsAttachment : Label → Bool
  | .insertAttachment _ => true
  | _ => false

/-- No statement of the program inserts the row of a new attachment. -/
def InsertsNone {α : Type} (p : Op α) : Prop :=
  p.Each (fun _ => True) fun name _ => ∀ s, (name s).insertsAttachment = false

theorem InsertsNone.label {α : Type} {p : Op α} (hp : InsertsNone p) {x : Strike Db Label Exn α}
    (hx : x ∈ p.strikes s) : x.label.insertsAttachment = false := by
  have heach : p.Each (fun _ => True)
    fun (name : Db → Label) _ => ∀ s, (name s).insertsAttachment = false := hp
  exact heach.strikes_label (B := fun l => l.insertsAttachment = false) (fun _ _ h => h) hx

theorem insertsNone_deleteAttachmentsOf (messageId : String) :
    InsertsNone (deleteAttachmentsOf messageId) :=
  .bind (Prog.each_perform.2 fun _ => rfl) fun _ => trivial

theorem insertsNone_requireMessage (messageId : String) {otherwise : Op Unit}
    (h : InsertsNone otherwise) : InsertsNone (requireMessage messageId otherwise) := by
  refine .bind (Prog.each_perform.2 fun _ => rfl) fun row => ?_
  cases row with
  | some _ => trivial
  | none => exact .bind h fun _ => trivial

theorem insertsNone_restoreAttachments (rows : List AttachmentRow) :
    InsertsNone (restoreAttachments rows) := by
  induction rows with
  | nil => trivial
  | cons row rows ih =>
    refine .bind (.bind (Prog.each_perform.2 fun _ => rfl) fun changes => ?_) fun _ => ih
    split <;> trivial

theorem insertsNone_putBack (messageId : String) (existingRows : List AttachmentRow)
    (error : Exn) : InsertsNone (putBack messageId existingRows error) :=
  .bind (insertsNone_deleteAttachmentsOf messageId) fun _ =>
    .bind (insertsNone_restoreAttachments existingRows) fun _ => trivial

/-! ### The whole function -/

theorem run_requireMessage (otherwise : Op Unit) (h : (s.message messageId).isSome) :
    (requireMessage messageId otherwise).run s = (.ok (), s) := by
  obtain ⟨m, hm⟩ := Option.isSome_iff_exists.1 h
  unfold requireMessage
  rw [Prog.run_bind, getMessage, run_query, Prog.andThen_ok, hm]
  rfl

theorem run_requireMessage_none (h : s.message messageId = none) :
    (requireMessage messageId (pure ())).run s =
      (.error (Exn.error ("Message " ++ messageId ++ " no longer exists")), s) := by
  unfold requireMessage
  rw [Prog.run_bind, getMessage, run_query, Prog.andThen_ok, h]
  rfl

/-- The store once the rows of the message are deleted. -/
def Db.cleared (s : Db) (messageId : String) : Db :=
  { s with attachments := s.otherAttachments messageId }

theorem Db.otherAttachments_cleared (s : Db) (messageId : String) :
    (s.cleared messageId).otherAttachments messageId = s.otherAttachments messageId := by
  show (s.attachments.filter _).filter _ = _
  rw [List.filter_filter]
  simp only [Bool.and_self, Db.otherAttachments]

/-- The end of `insertAttachments`: the message is still there. -/
def staleKeys (messageId : String) (existingRows : List AttachmentRow)
    (attachments : List AttachmentInput) : Op (List String) := do
  requireMessage messageId (catchAll (deleteAttachmentsOf messageId) ())
  pure ((existingRows.map AttachmentRow.r2Key).filter fun r2Key =>
    !attachments.any fun a => a.r2Key == r2Key)

theorem insertsNone_staleKeys (messageId : String) (existingRows : List AttachmentRow)
    (attachments : List AttachmentInput) :
    InsertsNone (staleKeys messageId existingRows attachments) :=
  .bind (insertsNone_requireMessage messageId
    ((insertsNone_deleteAttachmentsOf messageId).tryCatch fun _ => trivial)) fun _ => trivial

theorem insertAttachments_eq (env : Env) (messageId : String)
    (attachments : List AttachmentInput) : insertAttachments env messageId attachments =
      requireMessage messageId (pure ()) >>= fun _ =>
      (attachmentRows.select fun _ a => a.messageId == messageId) >>= fun rows =>
      deleteAttachmentsOf messageId >>= fun _ =>
      (insertNewAttachments env messageId attachments).tryCatch
        (putBack messageId (byCreatedAt rows)) >>= fun _ =>
      staleKeys messageId (byCreatedAt rows) attachments := rfl

/-- The run of `insertAttachments`, from the loop on. -/
theorem run_insertAttachments (env : Env) (attachments : List AttachmentInput)
    (h : (s.message messageId).isSome) : (insertAttachments env messageId attachments).run s =
      Prog.andThen (Prog.orElse
        ((insertNewAttachments env messageId attachments).run (s.cleared messageId))
        (putBack messageId (byCreatedAt (s.attachmentsOf messageId)))) fun _ =>
      staleKeys messageId (byCreatedAt (s.attachmentsOf messageId)) attachments := by
  rw [insertAttachments_eq, Prog.run_bind, run_requireMessage _ h, Prog.andThen_ok, Prog.run_bind]
  show Prog.andThen (.ok (s.attachmentsOf messageId), s) _ = _
  rw [Prog.andThen_ok, Prog.run_bind, run_deleteAttachmentsOf, Prog.andThen_ok, Prog.run_bind,
    Prog.run_tryCatch]
  rfl

/-- A strike at the insert of a new attachment is one of the loop, run on. -/
theorem exists_strike_of_insert {env : Env} {attachments : List AttachmentInput}
    {x : Strike Db Label Exn (List String)}
    (hx : x ∈ (insertAttachments env messageId attachments).strikes s)
    (hlabel : x.label.insertsAttachment = true) :
    ∃ y ∈ (insertNewAttachments env messageId attachments).strikes (s.cleared messageId),
      x = (y.orElse (putBack messageId (byCreatedAt (s.attachmentsOf messageId)))).andThen fun _ =>
        staleKeys messageId (byCreatedAt (s.attachmentsOf messageId)) attachments := by
  have hnot : ∀ {α : Type} {p : Op α} {s : Db} {y : Strike Db Label Exn α}, InsertsNone p →
      y ∈ p.strikes s → y.label.insertsAttachment = true → False := by
    intro α p s y hp hy htrue
    rw [hp.label hy] at htrue
    cases htrue
  have hpure : InsertsNone (pure () : Op Unit) := trivial
  rw [insertAttachments_eq] at hx
  obtain ⟨y, hy, rfl⟩ | ⟨u, s₁, hrun, hx⟩ := Prog.mem_strikes_bind hx
  · exact (hnot (insertsNone_requireMessage messageId hpure) hy hlabel).elim
  have hmessage : (s.message messageId).isSome := by
    rw [Option.isSome_iff_ne_none]
    intro hnone
    rw [run_requireMessage_none hnone] at hrun
    cases hrun
  rw [run_requireMessage _ hmessage] at hrun
  cases hrun
  obtain ⟨y, hy, rfl⟩ | ⟨found, s₁, hrun, hx⟩ := Prog.mem_strikes_bind hx
  · obtain rfl := List.mem_singleton.1 hy
    cases hlabel
  cases hrun
  obtain ⟨y, hy, rfl⟩ | ⟨u, s₁, hrun, hx⟩ := Prog.mem_strikes_bind hx
  · exact (hnot (insertsNone_deleteAttachmentsOf messageId) hy hlabel).elim
  cases hrun
  obtain ⟨y, hy, rfl⟩ | ⟨u, s₁, hrun, hx⟩ := Prog.mem_strikes_bind hx
  · obtain ⟨z, hz, rfl⟩ | ⟨error, s₁, -, hy⟩ := Prog.mem_strikes_tryCatch hy
    · exact ⟨z, hz, rfl⟩
    · exact (hnot (insertsNone_putBack messageId _ error) hy hlabel).elim
  · exact (hnot (insertsNone_staleKeys messageId _ attachments) hx hlabel).elim

theorem Db.Replaces.refl (s : Db) (messageId : String) :
    s.Replaces s messageId (s.attachmentsOf messageId) := ⟨List.Perm.refl _, rfl⟩

/-- What is appended to the other rows are the rows of the message. -/
theorem Db.Appends.replaces (h : (s.cleared messageId).Appends s' messageId rows) :
    s.Replaces s' messageId rows := by
  have hnone : (s.otherAttachments messageId).filter (fun a => a.messageId == messageId) = [] := by
    rw [List.filter_eq_nil_iff]
    intro row hrow
    simpa using (List.mem_filter.1 hrow).2
  have hall : rows.filter (fun a => a.messageId == messageId) = rows := by
    rw [List.filter_eq_self]
    intro row hrow
    simp [h.ofMessage row hrow]
  constructor
  · have heq : s'.attachmentsOf messageId = rows := by
      rw [h.eq]
      show (s.otherAttachments messageId ++ rows).filter _ = rows
      rw [List.filter_append, hnone, hall, List.nil_append]
    rw [heq]
  · rw [h.others, s.otherAttachments_cleared]

/-- The run puts the old rows back when an insert breaks a unique constraint. -/
theorem run_insertAttachments_error (env : Env) (attachments : List AttachmentInput)
    (hkeys : (s.attachments.map AttachmentRow.id).Nodup) {e : Exn}
    (h : (insertAttachments env messageId attachments).run s = (.error e, s')) :
    (e = Exn.unique ∨ s.message messageId = none) ∧
      s.Replaces s' messageId (s.attachmentsOf messageId) := by
  cases hm : s.message messageId with
  | none =>
    rw [insertAttachments_eq, Prog.run_bind, run_requireMessage_none hm, Prog.andThen_error] at h
    cases h
    exact ⟨.inr rfl, .refl s messageId⟩
  | some m =>
    have hsome : (s.message messageId).isSome := by rw [hm]; rfl
    obtain ⟨s₁, rows, happend, hloop⟩ :=
      run_insertNewAttachments env messageId attachments (s.cleared messageId)
    rw [run_insertAttachments env attachments hsome] at h
    obtain hloop | ⟨hloop, -⟩ := hloop
    · obtain ⟨s₂, hback, hreplaces⟩ := run_putBack Exn.unique hkeys happend.replaces.others
      rw [hloop, Prog.orElse_error, hback, Prog.andThen_error] at h
      cases h
      exact ⟨.inl rfl, hreplaces⟩
    · have hthere : (s₁.message messageId).isSome := by
        rw [happend.message]
        exact hsome
      rw [hloop, Prog.orElse_ok, Prog.andThen_ok, staleKeys, Prog.run_bind,
        run_requireMessage _ hthere] at h
      cases h

/-- The run that answers leaves the new rows, and answers the keys of the old ones that none of
them uses. -/
theorem run_insertAttachments_ok (env : Env) (attachments : List AttachmentInput)
    (hkeys : (s.attachments.map AttachmentRow.id).Nodup) {stale : List String}
    (h : (insertAttachments env messageId attachments).run s = (.ok stale, s')) :
    (∃ rows, s.Replaces s' messageId rows ∧ rows.map AttachmentRow.input = attachments) ∧
      ∀ key, key ∈ stale ↔ key ∈ (s.attachmentsOf messageId).map AttachmentRow.r2Key ∧
        key ∉ attachments.map AttachmentInput.r2Key := by
  have hsome : (s.message messageId).isSome := by
    rw [Option.isSome_iff_ne_none]
    intro hnone
    rw [insertAttachments_eq, Prog.run_bind, run_requireMessage_none hnone,
      Prog.andThen_error] at h
    cases h
  obtain ⟨s₁, rows, happend, hloop⟩ :=
    run_insertNewAttachments env messageId attachments (s.cleared messageId)
  have hthere : (s₁.message messageId).isSome := by
    rw [happend.message]
    exact hsome
  rw [run_insertAttachments env attachments hsome] at h
  obtain hloop | ⟨hloop, hrows⟩ := hloop
  · obtain ⟨s₂, hback, -⟩ := run_putBack Exn.unique hkeys happend.replaces.others
    rw [hloop, Prog.orElse_error, hback, Prog.andThen_error] at h
    cases h
  · rw [hloop, Prog.orElse_ok, Prog.andThen_ok, staleKeys, Prog.run_bind,
      run_requireMessage _ hthere, Prog.andThen_ok] at h
    cases h
    refine ⟨⟨rows, happend.replaces, hrows⟩, fun key => ?_⟩
    simp only [List.mem_filter, List.mem_map, byCreatedAt, List.mem_insertionSort,
      Bool.not_eq_true', List.any_eq_false, beq_iff_eq, not_exists, not_and]

/-- A strike at the insert of a new attachment puts the old rows back. -/
theorem strike_insertAttachments (env : Env) (attachments : List AttachmentInput)
    (hkeys : (s.attachments.map AttachmentRow.id).Nodup) {x : Strike Db Label Exn (List String)}
    (hx : x ∈ (insertAttachments env messageId attachments).strikes s)
    (hlabel : x.label.insertsAttachment = true) :
    (∃ s', x.refused = (.error Exn.d1, s') ∧
      s.Replaces s' messageId (s.attachmentsOf messageId)) ∧
    ∃ s', x.lost = (.error Exn.d1, s') ∧
      s.Replaces s' messageId (s.attachmentsOf messageId) := by
  obtain ⟨y, hy, rfl⟩ := exists_strike_of_insert hx hlabel
  obtain ⟨⟨s₁, rows₁, h₁, hrefused⟩, s₂, rows₂, h₂, hlost⟩ :=
    strikes_insertNewAttachments env messageId attachments (s.cleared messageId) y hy
  constructor
  · obtain ⟨s', hback, hreplaces⟩ := run_putBack Exn.d1 hkeys h₁.replaces.others
    refine ⟨s', ?_, hreplaces⟩
    simp only [Strike.andThen, Strike.orElse, hrefused, Prog.orElse_error, hback,
      Prog.andThen_error]
  · obtain ⟨s', hback, hreplaces⟩ := run_putBack Exn.d1 hkeys h₂.replaces.others
    refine ⟨s', ?_, hreplaces⟩
    simp only [Strike.andThen, Strike.orElse, hlost, Prog.orElse_error, hback,
      Prog.andThen_error]

/-- **A message's attachments are replaced as a whole, or not at all**: wherever an insert fails,
the old rows are there again and the failure is thrown. -/
theorem insertAttachments_all_or_nothing (env : Env) (messageId : String)
    (attachments : List AttachmentInput) {s : Db}
    (hkeys : (s.attachments.map AttachmentRow.id).Nodup) :
    (∀ x ∈ (insertAttachments env messageId attachments).strikes s,
      ∀ attachmentId, x.label = .insertAttachment attachmentId →
        (∃ s', x.refused = (.error Exn.d1, s') ∧
          s.Replaces s' messageId (s.attachmentsOf messageId)) ∧
        ∃ s', x.lost = (.error Exn.d1, s') ∧
          s.Replaces s' messageId (s.attachmentsOf messageId)) ∧
    (∀ e s', (insertAttachments env messageId attachments).run s = (.error e, s') →
      (e = Exn.unique ∨ s.message messageId = none) ∧
        s.Replaces s' messageId (s.attachmentsOf messageId)) ∧
    ∀ stale s', (insertAttachments env messageId attachments).run s = (.ok stale, s') →
      (∃ rows, s.Replaces s' messageId rows ∧ rows.map AttachmentRow.input = attachments) ∧
        ∀ key, key ∈ stale ↔ key ∈ (s.attachmentsOf messageId).map AttachmentRow.r2Key ∧
          key ∉ attachments.map AttachmentInput.r2Key := by
  refine ⟨?_, ?_, ?_⟩
  · intro x hx attachmentId hlabel
    apply strike_insertAttachments env attachments hkeys hx
    rw [hlabel]
    rfl
  · intro e s' h
    exact run_insertAttachments_error env attachments hkeys h
  · intro stale s' h
    exact run_insertAttachments_ok env attachments hkeys h

/-- A message with two attachments. -/
def attachedDb : Db where
  mailboxes := [⟨"mbx", "t", "a@b", "active"⟩]
  messages := [⟨"msg", "t", "mbx", none, .inbound, .internal, none, none, "c@d", "a@b", none, none,
    .received, none, none, none, none, 0⟩]
  attachments := [⟨"att_1", "msg", none, none, 1, none, "k1", 0⟩,
    ⟨"att_2", "msg", none, none, 1, none, "k2", 0⟩]

/-- What takes their place: the first, and a third. -/
def nextAttachments : List AttachmentInput :=
  [{ id := "att_1", sizeBytes := 1, r2Key := "k1" },
    { id := "att_3", sizeBytes := 1, r2Key := "k3" }]

/-- The insert of the third attachment is refused. -/
theorem third_attachment_refused :
    ∃ x ∈ (insertAttachments Env.bare "msg" nextAttachments).strikes attachedDb,
      x.label = .insertAttachment "att_3" ∧
        ∃ s', x.refused = (.error Exn.d1, s') ∧
          attachedDb.Replaces s' "msg" (attachedDb.attachmentsOf "msg") := by
  have hfifth : (((insertAttachments Env.bare "msg" nextAttachments).strikes
      attachedDb)[4]?).map Strike.label = some (.insertAttachment "att_3") := by
    decide +kernel
  have hkeys : (attachedDb.attachments.map AttachmentRow.id).Nodup := by decide
  obtain ⟨x, hx, hlabel⟩ := Option.map_eq_some_iff.1 hfifth
  have hmem := List.mem_of_getElem? hx
  exact ⟨x, hmem, hlabel, ((insertAttachments_all_or_nothing Env.bare "msg" nextAttachments
    hkeys).1 x hmem "att_3" hlabel).1⟩

end MailRuntime
