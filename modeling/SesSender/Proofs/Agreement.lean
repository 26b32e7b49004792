import SesSender.Proofs.LifeCycle
import SesSender.Proofs.Pickup
import SesSender.Proofs.Responses

/-! Immediate and scheduled delivery agree: what the scheduler reads back from the
rows of a payload is what `create_message` pushes for it. -/

namespace Ses

open Calendar

variable {E : Env} {env : CreateEnv} {payload : CreateMessageRequest} {db : Db}
  {contents : Table ContentRow} {rows : List RequestRow} {loop : HandOff}

/-- A saved request as the scheduler would make it of its row. -/
def EmailRequest.restored (req : EmailRequest) : EmailRequest :=
  { req with scheduledAt := none, status := EmailMessageStatus.processed.asI32 }

/-! ## The rows of a call -/

theorem rowids_saved (hfit : db.requests.seq + (payload.mails db.contents.seq).length ≤ i32Max) :
    (payload.saved db).filterMap (·.rowid) =
      (List.range (payload.mails db.contents.seq).length).map fun k : ℕ =>
        db.requests.seq + 1 + k :=
  rowids_mapIdx db.requests.seq_nonneg hfit

theorem nodup_rowids_saved
    (hfit : db.requests.seq + (payload.mails db.contents.seq).length ≤ i32Max) :
    ((payload.saved db).filterMap (·.rowid)).Nodup := by
  rw [rowids_saved hfit]
  exact List.nodup_range.map fun a b hab => by simpa using hab

/-- The row of a saved request, and its content. -/
theorem Created.row (h : Created E env payload db contents rows loop) {req : EmailRequest}
    (hreq : req ∈ payload.saved db)
    (hfit : db.requests.seq + (payload.mails db.contents.seq).length ≤ i32Max) :
    ∃ (id : Int) (row : RequestRow) (c : ContentRow) (contentId : Int32), req.rowid = some id ∧
      db.requests.seq < id ∧ (db.requests.append rows).get? id = some row ∧
      row.status = payload.status ∧ contents.get? row.contentId = some c ∧
      decodeI32 row.contentId = some contentId ∧ req.restored = ScheduledEmailRow.toRequest
        ⟨id, row.topicId, contentId, row.email, c.subject, c.content⟩ := by
  obtain ⟨i, hi, rfl⟩ := List.mem_mapIdx.1 hreq
  obtain ⟨row, hrow, ⟨k, hto⟩, -⟩ :=
    Lists.forall₂_getElem?_left h.stores (List.getElem?_eq_getElem hi)
  obtain ⟨contentId, c, hc, hget, hsubject, hcontent⟩ := h.resolves _ (List.getElem_mem hi)
  obtain ⟨j, msg, email, -, -, hmail⟩ := mem_mails (List.getElem_mem hi)
  have h0 := db.requests.seq_nonneg
  rw [hmail] at hto hc hsubject hcontent ⊢
  obtain rfl := Option.some.inj hto
  obtain rfl := Option.some.inj hc
  refine ⟨db.requests.seq + 1 + i, _, c, _, ?_, by omega, (Table.get?_append_new i).trans hrow, rfl,
    hget, decodeI32_toInt _, ?_⟩
  · rw [EmailRequest.rowid, Option.map_some, asI32_toInt (by omega) (by omega)]
  · rw [hsubject, hcontent]
    rfl

/-- The scheduler reads each saved request back from its row, rolled back or not. -/
theorem Created.mail (h : Created E env payload db contents rows loop) {req : EmailRequest}
    (hreq : req ∈ payload.saved db)
    (hfit : db.requests.seq + (payload.mails db.contents.seq).length ≤ i32Max) :
    ∃ id, req.rowid = some id ∧
      (createMessage E env payload db).db.mail id = some req.restored := by
  obtain ⟨id, row, c, contentId, hid, -, hrow, -, hc, hdec, hreq⟩ := h.row hreq hfit
  refine ⟨id, hid, ?_⟩
  have hget := get?_rollbackToCreated env.rollbackNow loop.failed (db.requests.append rows) id
  rw [hrow, Option.map_some] at hget
  rw [Db.mail, h.db_eq, hreq, Option.map_eq_some_iff]
  refine ⟨_, Db.scheduledRow_eq_some.2 ⟨_, c, contentId, hget, ?_, ?_, rfl⟩, ?_⟩
  · split <;> exact hc
  · split <;> exact hdec
  · split <;> rfl

/-- A list of saved requests, read back by their ids. -/
theorem filterMap_mail (h : Created E env payload db contents rows loop)
    (hfit : db.requests.seq + (payload.mails db.contents.seq).length ≤ i32Max)
    {reqs : List EmailRequest} (hreqs : ∀ req ∈ reqs, req ∈ payload.saved db) :
    (reqs.filterMap (·.rowid)).filterMap (createMessage E env payload db).db.mail =
      reqs.map (·.restored) := by
  rw [List.filterMap_filterMap, ← List.filterMap_eq_map]
  apply List.filterMap_congr
  intro req hreq
  obtain ⟨id, hid, hmail⟩ := h.mail (hreqs req hreq) hfit
  rw [hid, Option.bind_some, hmail]
  rfl

/-! ## What waits after a call -/

/-- Every row after the call was there before, or is the one of a saved request. -/
theorem Created.cases (h : Created E env payload db contents rows loop)
    (hfit : db.requests.seq + (payload.mails db.contents.seq).length ≤ i32Max)
    {back : List EmailRequest} (hback : loop.failed = back.map EmailRequest.markCreated)
    (hsub : ∀ req ∈ back, req ∈ payload.saved db) {id : Int} {row : RequestRow}
    (hrow : (createMessage E env payload db).db.requests.get? id = some row) :
    (id ∉ (payload.saved db).filterMap (·.rowid) ∧ db.requests.get? id = some row) ∨
    (id ∈ (payload.saved db).filterMap (·.rowid) ∧ db.requests.get? id = none ∧
      row.status = if id ∈ back.filterMap (·.rowid) then EmailMessageStatus.created.asI32
        else payload.status) := by
  rw [h.db_eq, get?_rollbackToCreated, hback, rowids_markCreated] at hrow
  obtain ⟨row₀, hrow₀, rfl⟩ := Option.map_eq_some_iff.1 hrow
  by_cases hid : id ∈ (payload.saved db).filterMap (·.rowid)
  · obtain ⟨req, hreq, hreqid⟩ := List.mem_filterMap.1 hid
    obtain ⟨id', row', _, _, hid', hlt, hrow', hst, -⟩ := h.row hreq hfit
    obtain rfl : id' = id := Option.some.inj (hid'.symm.trans hreqid)
    obtain rfl := Option.some.inj (hrow'.symm.trans hrow₀)
    refine Or.inr ⟨hid, Table.get?_of_seq_lt hlt, ?_⟩
    split
    · rfl
    · exact hst
  · have hno : id ∉ back.filterMap (·.rowid) := by
      intro hin
      obtain ⟨req, hreq, hreqid⟩ := List.mem_filterMap.1 hin
      exact hid (List.mem_filterMap.2 ⟨req, hsub req hreq, hreqid⟩)
    refine Or.inl ⟨hid, ?_⟩
    rw [if_neg hno]
    rcases Table.get?_append_cases hrow₀ with hold | ⟨i, rfl, hi⟩
    · exact hold
    · obtain ⟨_, hmail, -⟩ := Lists.forall₂_getElem?_right h.stores hi
      refine absurd ?_ hid
      rw [rowids_saved hfit]
      exact List.mem_map.2 ⟨i, List.mem_range.2 (List.getElem?_eq_some_iff.1 hmail).1, rfl⟩

/-- At `now` no row that was there before the call is due, and the time of the rows
it added has come. -/
def OnlyNewDue (db db' : Db) (now : Instant) : Prop :=
  (∀ id row, db.requests.get? id = some row → due now row = false) ∧
  ∀ id row, db'.requests.get? id = some row → db.requests.get? id = none →
    row.scheduledAt ≤ now.stamp

/-- The requests whose rows wait: all of a scheduled payload, and of an immediate one
those rolled back. -/
def CreateMessageRequest.waits (payload : CreateMessageRequest) (db : Db)
    (back : List EmailRequest) : List EmailRequest :=
  if payload.isScheduled then payload.saved db else back

theorem waits_subperm {back : List EmailRequest} (h : back.Subperm (payload.saved db)) :
    (payload.waits db back).Subperm (payload.saved db) := by
  unfold CreateMessageRequest.waits
  split
  · exact List.Subperm.refl _
  · exact h

theorem Created.waiting (h : Created E env payload db contents rows loop)
    (hfit : db.requests.seq + (payload.mails db.contents.seq).length ≤ i32Max)
    {back : List EmailRequest} (hback : loop.failed = back.map EmailRequest.markCreated)
    (hsub : back.Subperm (payload.saved db)) {P : Instant → Prop}
    (hP : ∀ now, P now → OnlyNewDue db (createMessage E env payload db).db now) :
    Waiting P (createMessage E env payload db).db.requests
      ((payload.waits db back).filterMap (·.rowid)) := by
  have hwaits := waits_subperm hsub
  refine ⟨?_, fun id hid => ?_, fun now hnow id row hrow => ?_⟩
  · obtain ⟨l, hperm, hsublist⟩ := hwaits
    rw [← (hperm.filterMap _).nodup_iff]
    exact (nodup_rowids_saved hfit).sublist (hsublist.filterMap _)
  · obtain ⟨req, hreq, hreqid⟩ := List.mem_filterMap.1 hid
    obtain ⟨id', row, _, _, hid', -, hrow, -⟩ := h.row (hwaits.subset hreq) hfit
    obtain rfl : id' = id := Option.some.inj (hid'.symm.trans hreqid)
    rw [h.db_eq, get?_rollbackToCreated, hrow]
    exact ⟨_, rfl⟩
  · obtain ⟨hold, hnew⟩ := hP now hnow
    rcases h.cases hfit hback (fun req hreq => hsub.subset hreq) hrow with
      ⟨hno, hrow'⟩ | ⟨hin, hnone, hst⟩
    · rw [hold id row hrow']
      refine iff_of_false (by decide) fun hid => hno ?_
      obtain ⟨req, hreq, hreqid⟩ := List.mem_filterMap.1 hid
      exact List.mem_filterMap.2 ⟨req, hwaits.subset hreq, hreqid⟩
    · have hle := hnew id row hrow hnone
      have hdue : due now row = true ↔ row.status = EmailMessageStatus.created.asI32 := by
        simp [due, hle]
      rw [hdue, hst, CreateMessageRequest.waits]
      cases hsch : payload.isScheduled with
      | true => simp [CreateMessageRequest.status, hsch, hin]
      | false =>
        simp only [CreateMessageRequest.status, hsch, Bool.false_eq_true, if_false]
        split
        · rename_i hb
          exact iff_of_true rfl hb
        · rename_i hb
          exact iff_of_false (by decide) hb

/-- What the scheduler pushes for the rows of a call until none is left. -/
theorem Created.fetched (h : Created E env payload db contents rows loop)
    (hfit : db.requests.seq + (payload.mails db.contents.seq).length ≤ i32Max)
    {back : List EmailRequest} (hback : loop.failed = back.map EmailRequest.markCreated)
    (hsub : back.Subperm (payload.saved db)) {batches : List BatchEnv} {db' : Db}
    {later : List EmailRequest}
    (hbatches : ∀ b ∈ batches, b.FailureFree ∧
      OnlyNewDue db (createMessage E env payload db).db b.now)
    (hfetch : fetchUntilEmpty batches (createMessage E env payload db).db = some (db', later)) :
    later.Perm ((payload.waits db back).map (·.restored)) := by
  have hwaiting := h.waiting hfit hback hsub fun now hnow => hnow
  have hperm := fetchUntilEmpty_perm (fun b hb => (hbatches b hb).2) hwaiting hfetch
  rwa [filterMap_mail h hfit fun req hreq => (waits_subperm hsub).subset hreq] at hperm

/-- Calls at the given times do get there. -/
theorem Created.exists_fetch (h : Created E env payload db contents rows loop)
    (hfit : db.requests.seq + (payload.mails db.contents.seq).length ≤ i32Max)
    {back : List EmailRequest} (hback : loop.failed = back.map EmailRequest.markCreated)
    (hsub : back.Subperm (payload.saved db)) (times : ℕ → Instant)
    (htimes : ∀ k, OnlyNewDue db (createMessage E env payload db).db (times k)) :
    ∃ batches db' later, (∀ b ∈ batches, b.FailureFree) ∧
      (∀ i b, batches[i]? = some b → b.now = times i) ∧
      fetchUntilEmpty batches (createMessage E env payload db).db = some (db', later) := by
  have hwaiting := h.waiting hfit hback hsub fun now hnow => hnow
  have hdec : ∀ id ∈ (payload.waits db back).filterMap (·.rowid), ∀ row,
      (createMessage E env payload db).db.requests.get? id = some row →
      ∃ x, decodeI32 row.contentId = some x := by
    intro id hid row hrow
    obtain ⟨req, hreq, hreqid⟩ := List.mem_filterMap.1 hid
    obtain ⟨id', hid', hmail⟩ := h.mail ((waits_subperm hsub).subset hreq) hfit
    obtain rfl : id' = id := Option.some.inj (hid'.symm.trans hreqid)
    obtain ⟨_, hread, -⟩ := Option.map_eq_some_iff.1 hmail
    obtain ⟨row', _, x, hrow', -, hx, -⟩ := Db.scheduledRow_eq_some.1 hread
    obtain rfl := Option.some.inj (hrow'.symm.trans hrow)
    exact ⟨x, hx⟩
  obtain ⟨batches, ⟨db', later⟩, hfree, hnow, hfetch⟩ :=
    exists_fetchUntilEmpty times htimes hwaiting hdec
  exact ⟨batches, db', later, hfree, hnow, hfetch⟩

/-! ## Agreement -/

/-- A request without the time it was asked for. -/
def EmailRequest.untimed (req : EmailRequest) : EmailRequest := { req with scheduledAt := none }

theorem restored_saved_eq {imm sch : CreateMessageRequest} (h : sch.messages = imm.messages)
    (db : Db) : (sch.saved db).map (·.restored) = (imm.saved db).map (·.restored) := by
  have hmails : (sch.mails db.contents.seq).map (·.restored) =
      (imm.mails db.contents.seq).map (·.restored) := by
    simp only [CreateMessageRequest.mails, h, List.map_flatMap, List.map_map]
    rfl
  have hsaved : ∀ payload : CreateMessageRequest, (payload.saved db).map (·.restored) =
      ((payload.mails db.contents.seq).map (·.restored)).mapIdx fun i req =>
        { req with id := some (asI32 (db.requests.seq + 1 + i)) } := by
    intro payload
    apply List.ext_getElem (by simp [CreateMessageRequest.saved])
    intro i h1 h2
    simp [CreateMessageRequest.saved, EmailRequest.restored]
  rw [hsaved, hsaved, hmails]

theorem restored_saved_immediate {imm : CreateMessageRequest} (h : imm.isScheduled = false)
    (db : Db) {req : EmailRequest} (hreq : req ∈ imm.saved db) : req.restored = req.untimed := by
  obtain ⟨i, hi, rfl⟩ := List.mem_mapIdx.1 hreq
  obtain ⟨j, msg, email, -, -, hmail⟩ := mem_mails (List.getElem_mem hi)
  rw [hmail]
  simp [EmailRequest.restored, EmailRequest.untimed, CreateMessageRequest.status, h]

theorem pushed_immediate {imm : CreateMessageRequest} (himm : imm.isScheduled = false)
    (henv : env.FailureFree) (h : Created E env imm db contents rows loop) :
    (createMessage E env imm db).pushed = imm.saved db := by
  rw [h.pushed, h.loop_eq, himm, handOff_ok henv.outcomes]
  rfl

/-- The addresses with what each of them is sent, message by message. -/
theorem addressed_saved (payload : CreateMessageRequest) (db : Db) :
    ((payload.saved db).map fun req => (req.topicId, req.email, req.subject, req.content)) =
      payload.messages.flatMap fun msg => msg.emails.map fun email =>
        (some (msg.topicId.getD ""), email, msg.subject, msg.content) := by
  have hmails : ((payload.saved db).map fun req =>
      (req.topicId, req.email, req.subject, req.content)) =
      (payload.mails db.contents.seq).map fun req =>
        (req.topicId, req.email, req.subject, req.content) := by
    apply List.ext_getElem (by simp [CreateMessageRequest.saved])
    intro i h1 h2
    simp [CreateMessageRequest.saved]
  rw [hmails]
  simp only [CreateMessageRequest.mails, List.map_flatMap, List.map_map]
  conv_rhs => rw [← List.zipIdx_map_fst 0 payload.messages, List.flatMap_map]
  rfl

theorem HandOff.Sorted.subperm {saved back lost : List EmailRequest} {st : HandOff}
    (h : st.Sorted saved back lost) : back.Subperm saved := by
  refine List.Subperm.trans (List.Sublist.subperm ?_) h.all.subperm
  exact (List.sublist_append_right _ _).trans (List.sublist_append_left _ _)

/-- A call leaves some of its requests for the scheduler. -/
theorem Created.back (h : Created E env payload db contents rows loop) :
    ∃ back : List EmailRequest, loop.failed = back.map EmailRequest.markCreated ∧
      back.Subperm (payload.saved db) := by
  rw [h.loop_eq]
  split
  · exact ⟨[], rfl, List.nil_subperm⟩
  · obtain ⟨back, lost, hsorted, -⟩ := handOff_sorted (payload.saved db) env.outcomes
    exact ⟨back, hsorted.failed, hsorted.subperm⟩

/-- The scheduler pushes for a scheduled payload what would have been pushed at once. -/
theorem Created.fetched_scheduled {imm : CreateMessageRequest}
    (h : Created E env payload db contents rows loop)
    (hfit : db.requests.seq + (payload.mails db.contents.seq).length ≤ i32Max)
    (hmessages : payload.messages = imm.messages) (himm : imm.isScheduled = false)
    (hsch : payload.isScheduled = true) {batches : List BatchEnv} {db' : Db}
    {later : List EmailRequest}
    (hbatches : ∀ b ∈ batches, b.FailureFree ∧
      OnlyNewDue db (createMessage E env payload db).db b.now)
    (hfetch : fetchUntilEmpty batches (createMessage E env payload db).db = some (db', later)) :
    later.Perm ((imm.saved db).map (·.untimed)) := by
  have hfailed : loop.failed = ([] : List EmailRequest).map EmailRequest.markCreated := by
    rw [h.loop_eq, if_pos hsch]
    rfl
  have hperm := h.fetched hfit hfailed List.nil_subperm hbatches hfetch
  rw [CreateMessageRequest.waits, if_pos hsch, restored_saved_eq hmessages] at hperm
  rwa [List.map_congr_left fun req hreq => restored_saved_immediate himm db hreq] at hperm

/-- Of an immediate payload the scheduler pushes what the loop had to roll back. -/
theorem Created.fetched_rolledBack (h : Created E env payload db contents rows loop)
    (hfit : db.requests.seq + (payload.mails db.contents.seq).length ≤ i32Max)
    (himm : payload.isScheduled = false) {back lost : List EmailRequest}
    (hsorted : loop.Sorted (payload.saved db) back lost) {batches : List BatchEnv} {db' : Db}
    {later : List EmailRequest}
    (hbatches : ∀ b ∈ batches, b.FailureFree ∧
      OnlyNewDue db (createMessage E env payload db).db b.now)
    (hfetch : fetchUntilEmpty batches (createMessage E env payload db).db = some (db', later)) :
    later.Perm (back.map (·.untimed)) := by
  have hperm := h.fetched hfit hsorted.failed hsorted.subperm hbatches hfetch
  rw [CreateMessageRequest.waits, himm, if_neg (by decide)] at hperm
  rwa [List.map_congr_left fun req hreq =>
    restored_saved_immediate himm db (hsorted.subperm.subset hreq)] at hperm

/-- The new rows that wait are the ones of the requests rolled back. -/
theorem Created.status_iff (h : Created E env payload db contents rows loop)
    (hfit : db.requests.seq + (payload.mails db.contents.seq).length ≤ i32Max)
    (himm : payload.isScheduled = false) {back lost : List EmailRequest}
    (hsorted : loop.Sorted (payload.saved db) back lost) {id : Int} {row : RequestRow}
    (hrow : (createMessage E env payload db).db.requests.get? id = some row)
    (hnew : db.requests.get? id = none) :
    row.status = EmailMessageStatus.created.asI32 ↔ ∃ req ∈ back, req.rowid = some id := by
  rw [← List.mem_filterMap]
  rcases h.cases hfit hsorted.failed (fun req hreq => hsorted.subperm.subset hreq) hrow with
    ⟨-, hold⟩ | ⟨-, -, hst⟩
  · rw [hold] at hnew
    cases hnew
  · rw [hst, CreateMessageRequest.status, himm]
    split
    · rename_i hid
      exact iff_of_true rfl hid
    · rename_i hid
      exact iff_of_false (by decide) hid

/-- What is pushed at once for a payload is what the scheduler pushes for its rows, when
it was stored for a time that has come and when the channel was closed on it. -/
theorem immediate_and_scheduled_agree {imm sch : CreateMessageRequest}
    (hmessages : sch.messages = imm.messages) (himm : imm.isScheduled = false)
    (hsch : sch.isScheduled = true)
    (htotal : (imm.messages.flatMap (·.emails)).length ≤ MAX_EMAILS_PER_REQUEST)
    (hcontents : db.contents.seq + imm.messages.length ≤ i32Max)
    (hrequests : db.requests.seq + (imm.messages.flatMap (·.emails)).length ≤ i32Max)
    (henv : env.FailureFree) :
    (((createMessage E env imm db).pushed.map fun req =>
        (req.topicId, req.email, req.subject, req.content)) =
      imm.messages.flatMap fun msg => msg.emails.map fun email =>
        (some (msg.topicId.getD ""), email, msg.subject, msg.content)) ∧
    (∀ env' : CreateEnv, env'.FailureFree → ∀ batches db' later,
      (∀ b ∈ batches, b.FailureFree ∧
        OnlyNewDue db (createMessage E env' sch db).db b.now) →
      fetchUntilEmpty batches (createMessage E env' sch db).db = some (db', later) →
      later.Perm ((createMessage E env imm db).pushed.map (·.untimed))) ∧
    (∀ env' : CreateEnv, env'.StatementsSucceed → ∃ back lost,
      ((createMessage E env' imm db).pushed ++ back ++ lost).Perm
        (createMessage E env imm db).pushed ∧
      lost.length ≤ 1 ∧ ((∀ i, env'.outcomes i ≠ .fullClosed) → lost = []) ∧
      (∀ id row, (createMessage E env' imm db).db.requests.get? id = some row →
        db.requests.get? id = none →
        (row.status = EmailMessageStatus.created.asI32 ↔ ∃ req ∈ back, req.rowid = some id)) ∧
      ∀ batches db' later, (∀ b ∈ batches, b.FailureFree ∧
          OnlyNewDue db (createMessage E env' imm db).db b.now) →
        fetchUntilEmpty batches (createMessage E env' imm db).db = some (db', later) →
        later.Perm (back.map (·.untimed))) ∧
    ∀ payload : CreateMessageRequest, payload = imm ∨ payload = sch →
      ∀ env' : CreateEnv, env'.StatementsSucceed → ∀ times : ℕ → Instant,
      (∀ k, OnlyNewDue db (createMessage E env' payload db).db (times k)) →
      ∃ batches db' later, (∀ b ∈ batches, b.FailureFree) ∧
        (∀ i b, batches[i]? = some b → b.now = times i) ∧
        fetchUntilEmpty batches (createMessage E env' payload db).db = some (db', later) := by
  have htotal' := hmessages ▸ htotal
  have hcontents' := hmessages ▸ hcontents
  have hrequests' := hmessages ▸ hrequests
  have hfit : db.requests.seq + (imm.mails db.contents.seq).length ≤ i32Max := by
    rwa [length_mails]
  have hfit' : db.requests.seq + (sch.mails db.contents.seq).length ≤ i32Max := by
    rwa [length_mails]
  obtain ⟨contents, rows, loop, h⟩ :=
    createMessage_created henv.toStatementsSucceed htotal hcontents hrequests
  rw [pushed_immediate himm henv h]
  refine ⟨addressed_saved imm db, fun env' henv' batches db' later hbatches hfetch => ?_,
    fun env' henv' => ?_, ?_⟩
  · obtain ⟨_, _, _, h'⟩ := createMessage_created henv'.toStatementsSucceed htotal'
      hcontents' hrequests'
    exact h'.fetched_scheduled hfit' hmessages himm hsch hbatches hfetch
  · obtain ⟨_, _, loop', h'⟩ := createMessage_created (E := E) henv' htotal hcontents hrequests
    obtain ⟨back, lost, hsorted, hlost⟩ := handOff_sorted (imm.saved db) env'.outcomes
    have hloop : loop' = handOff (imm.saved db) env'.outcomes := by
      rw [h'.loop_eq, himm, if_neg (by decide)]
    rw [← hloop] at hsorted
    refine ⟨back, lost, ?_, hsorted.lost_le, hlost, fun id row => h'.status_iff hfit himm hsorted,
      fun batches db' later => h'.fetched_rolledBack hfit himm hsorted⟩
    rw [h'.pushed]
    exact hsorted.all
  · rintro payload (rfl | rfl) env' henv' times htimes
    · obtain ⟨_, _, _, h'⟩ := createMessage_created henv' htotal hcontents hrequests
      obtain ⟨back, hback, hsub⟩ := h'.back
      exact h'.exists_fetch hfit hback hsub times htimes
    · obtain ⟨_, _, _, h'⟩ := createMessage_created henv' htotal' hcontents' hrequests'
      obtain ⟨back, hback, hsub⟩ := h'.back
      exact h'.exists_fetch hfit' hback hsub times htimes

def openEnv : CreateEnv :=
  ⟨fun _ => newYear, .none, fun _ => newYear, .none, fun _ => .ok, newYear, false⟩

/-- Two messages with contents of their own, the first for two addresses. -/
def twoMessages (scheduledAt : Option String) : CreateMessageRequest :=
  ⟨[⟨some "a", ["one@example.com", "two@example.com"], "Hello", "<p>Hi</p>"⟩,
    ⟨none, ["three@example.com"], "News", "<p>News</p>"⟩], scheduledAt⟩

/-- One call that picks the rows and reads them back, each in an order of its own, and
one that finds none. -/
def sampleBatches : List BatchEnv :=
  [⟨newYear, [3, 1, 2], [⟨2, "a", 1, "two@example.com", "Hello", "<p>Hi</p>"⟩,
      ⟨3, "", 2, "three@example.com", "News", "<p>News</p>"⟩,
      ⟨1, "a", 1, "one@example.com", "Hello", "<p>Hi</p>"⟩], false, false, none⟩,
    ⟨newYear, [], [], false, false, none⟩]

theorem immediate_and_scheduled_agree_sample :
    ∃ db' later, fetchUntilEmpty sampleBatches (createMessage sampleEnv openEnv
        (twoMessages (some "2030-01-01 09:00:00")) Db.empty).db = some (db', later) ∧
      later.map (fun req => (req.email, req.subject)) = [("two@example.com", "Hello"),
        ("three@example.com", "News"), ("one@example.com", "Hello")] ∧
      (createMessage sampleEnv openEnv (twoMessages none) Db.empty).pushed.map (·.email) =
        ["one@example.com", "two@example.com", "three@example.com"] ∧
      later.Perm ((createMessage sampleEnv openEnv (twoMessages none)
        Db.empty).pushed.map (·.untimed)) := by
  have hfree : openEnv.FailureFree := ⟨⟨rfl, rfl, rfl⟩, fun _ => Or.inl rfl⟩
  have hfetch : (fetchUntilEmpty sampleBatches (createMessage sampleEnv openEnv
      (twoMessages (some "2030-01-01 09:00:00")) Db.empty).db).any
        (fun r => r.2.map (fun req => (req.email, req.subject)) = [("two@example.com", "Hello"),
          ("three@example.com", "News"), ("one@example.com", "Hello")]) = true := by decide
  have htime : ∀ r ∈ (createMessage sampleEnv openEnv
      (twoMessages (some "2030-01-01 09:00:00")) Db.empty).db.requests.rows,
      r.2.scheduledAt ≤ newYear.stamp := by decide
  obtain ⟨⟨db', later⟩, hfetch, hread⟩ := (Option.any_eq_true _ _).1 hfetch
  have hnew : OnlyNewDue Db.empty (createMessage sampleEnv openEnv
      (twoMessages (some "2030-01-01 09:00:00")) Db.empty).db newYear := by
    refine ⟨fun id row hrow => ?_, fun id row hrow _ => htime _ (Table.get?_eq_some.1 hrow)⟩
    cases hrow
  have hagree := @immediate_and_scheduled_agree sampleEnv openEnv Db.empty (twoMessages none)
    (twoMessages (some "2030-01-01 09:00:00")) rfl (by decide) (by decide) (by decide)
    (by decide) (by decide) hfree
  refine ⟨db', later, hfetch, of_decide_eq_true hread, by decide,
    hagree.2.1 openEnv hfree sampleBatches db' later (fun b hb => ?_) hfetch⟩
  simp only [sampleBatches, List.mem_cons, List.not_mem_nil, or_false] at hb
  rcases hb with rfl | rfl
  · exact ⟨⟨rfl, rfl, rfl⟩, hnew⟩
  · exact ⟨⟨rfl, rfl, rfl⟩, hnew⟩

end Ses
