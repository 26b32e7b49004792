import SesSender.Proofs.Rows

/-! Every step of the system is a move of the ledger. Without a failure it is
one that drops nothing. -/

namespace Ses

open Calendar

variable {E : Env} {s t : Sys} {e : Event}

/-! ## Saving -/

theorem nodup_idsOf_saved {contents : Table ContentRow} {clock : ℕ → Instant} {F : TxFaults}
    {requests saved : List EmailRequest} {r r' : Table RequestRow}
    (h : EmailRequest.saveBatch E contents clock F requests r = .ok (saved, r'))
    (hfit : r'.seq ≤ i32Max) : (idsOf saved).Nodup := by
  unfold idsOf
  rw [save_rowids h hfit, Multiset.coe_nodup]
  exact List.nodup_range.map fun a b hab => by simpa using hab

theorem mem_idsOf_saved {contents : Table ContentRow} {clock : ℕ → Instant} {F : TxFaults}
    {requests saved : List EmailRequest} {r r' : Table RequestRow}
    (h : EmailRequest.saveBatch E contents clock F requests r = .ok (saved, r'))
    (hfit : r'.seq ≤ i32Max) {id : Int} :
    id ∈ idsOf saved ↔ ∃ k : ℕ, k < requests.length ∧ id = r.seq + 1 + k := by
  unfold idsOf
  rw [save_rowids h hfit]
  simp [eq_comm]

/-- What inserting the requests of a payload does to a phase. -/
theorem insert_phase {contents : Table ContentRow} {payload : CreateMessageRequest}
    {savedContents : List EmailContent} {clock : ℕ → Instant} {rows : List RequestRow}
    {r : Table RequestRow}
    (hst : List.Forall₂ (Stores E contents clock) (payload.requests savedContents) rows) (id : Int) :
    ((r.append rows).get? id).map RequestRow.phase = (r.get? id).map RequestRow.phase ∨
      ∃ row : RequestRow, r.get? id = none ∧ (r.append rows).get? id = some row ∧
        row.status = payload.status ∧
        ∃ k : ℕ, k < (payload.requests savedContents).length ∧ id = r.seq + 1 + k := by
  by_cases hid : id ≤ r.seq
  · exact Or.inl (by rw [Table.get?_append_old hid])
  · have hnone : r.get? id = none := Table.get?_of_seq_lt (by omega)
    cases hget : (r.append rows).get? id with
    | none => exact Or.inl (by rw [hnone])
    | some row =>
      rcases Table.get?_append_cases hget with hold | ⟨k, hk, hrow⟩
      · rw [hnone] at hold; cases hold
      · obtain ⟨req, hreq, hstore⟩ := Lists.forall₂_getElem?_right hst hrow
        obtain ⟨hlt, -⟩ := List.getElem?_eq_some_iff.1 hreq
        exact Or.inr ⟨row, hnone, rfl, (hstore.written (List.mem_of_getElem? hreq)).1, k, hlt, hk⟩

/-! ## Moves -/

theorem near_same {i : ℕ} {h₀ h : Handler} (hi : s.handlers[i]? = some h₀)
    (hids : (h.ids : Multiset Int) = h₀.ids) :
    ((s.setHandler i h).nearIds : Multiset Int) = s.nearIds := by
  obtain ⟨N, hN, hset⟩ := near_setHandler hi
  rw [hset, hN, hids]

/-- A call or a scheduler drops some of the ids it held. -/
theorem handler_lose_move {i : ℕ} {h₀ h : Handler} (hi : s.handlers[i]? = some h₀)
    (hids : (h.ids : Multiset Int) ≤ h₀.ids) : Ledger.Step .lose s.book (s.setHandler i h).book := by
  obtain ⟨N, hN, hset⟩ := near_setHandler hi
  refine .lose (fun _ => Or.inl rfl) ?_ le_rfl rfl
  change ((s.setHandler i h).nearIds : Multiset Int) ≤ (s.nearIds : Multiset Int)
  rw [hset, hN]
  exact add_le_add_left hids N

theorem scheduler_lose_move {j : ℕ} {c₀ c : Scheduler} (hj : s.schedulers[j]? = some c₀)
    (hids : (c.ids : Multiset Int) ≤ c₀.ids) :
    Ledger.Step .lose s.book (s.setScheduler j c).book := by
  obtain ⟨N, hN, hset⟩ := near_setScheduler hj
  refine .lose (fun _ => Or.inl rfl) ?_ le_rfl rfl
  change ((s.setScheduler j c).nearIds : Multiset Int) ≤ (s.nearIds : Multiset Int)
  rw [hset, hN]
  exact add_le_add_left hids N

theorem Sys.book_far (s : Sys) :
    s.book.far = idsOf s.sendChan.queue + idsOf s.sender.held +
      idsOf (s.tasks.flatMap (·.unanswered)) + idsOf (s.tasks.flatMap (·.answers)) +
      idsOf s.postChan.queue + idsOf s.post.batch :=
  s.coe_farIds

@[simp] theorem Handler.ids_next (rest : List EmailRequest) (loop : HandOff)
    (response : CreateMessageResponse) :
    ((Handler.next rest loop response).ids : Multiset Int) = idsOf rest + idsOf loop.failed := by
  rw [Handler.coe_ids, Handler.unsent_next, Handler.failed_next]

/-- The request at the head of a hand-off goes through the gate. -/
theorem accept_move {u : Sys} {req : EmailRequest} (hreq : Fresh req)
    (hdb : u.db.requests = s.db.requests) (hacc : u.hist.accepted = s.hist.accepted ++ [req])
    (hnear : (s.nearIds : Multiset Int) = req.ids + u.nearIds)
    (hfar : (u.farIds : Multiset Int) = req.ids + s.farIds) :
    Ledger.Step .accept s.book u.book := by
  obtain ⟨id, hid, hids⟩ := hreq.ids_eq
  rw [hids, Multiset.singleton_add] at hnear hfar
  refine .accept id (fun _ => by simp only [Sys.book, hdb]) hnear hfar ?_
  simp only [Sys.book, hacc, List.filterMap_append, ← Multiset.coe_add]
  rw [add_comm, List.filterMap_cons, hid, List.filterMap_nil, Multiset.coe_singleton,
    Multiset.singleton_add]

theorem farIds_accept (req : EmailRequest) :
    ((s.accept req).farIds : Multiset Int) = req.ids + s.farIds := by
  rw [Sys.coe_farIds, Sys.coe_farIds]
  simp only [Sys.accept, Channel.push, idsOf_append, idsOf_cons, idsOf_nil]
  abel

/-- The batch is written: every row of it gets its answer. -/
theorem finish_move {u : Sys} (reqs : List EmailRequest)
    (hans : ∀ req ∈ reqs, Answered s.hist.returned req)
    (hbook : Ledger.Inv s.book) (hfar : (s.farIds : Multiset Int) = idsOf reqs + u.farIds)
    (hnear : u.nearIds = s.nearIds) (hacc : u.hist.accepted = s.hist.accepted)
    (hget : ∀ id, ∃ f : RequestRow → RequestRow,
      u.db.requests.get? id = (s.db.requests.get? id).map f ∧
      (id ∉ idsOf reqs → ∀ row, f row = row) ∧
      ∀ req ∈ reqs, req.rowid = some id → ∀ row, (f row).status = req.status) :
    Ledger.Step .finish s.book u.book := by
  refine .finish (idsOf reqs) (fun id hid => ?_) (fun id hid => ?_) ?_ hfar ?_
  · obtain ⟨f, hf, -, hin⟩ := hget id
    have hheld : id ∈ s.book.near + s.book.far := by
      refine Multiset.mem_add.2 (Or.inr ?_)
      change id ∈ (s.farIds : Multiset Int)
      rw [hfar]
      exact Multiset.mem_add.2 (Or.inl hid)
    obtain ⟨row, hrow, -⟩ := Sys.book_phase_eq_some.1 (hbook.held id hheld)
    obtain ⟨req, hreq, hid⟩ := mem_idsOf.1 hid
    have hst := hin req hreq hid row
    have hrow' : u.db.requests.get? id = some (f row) := by rw [hf, hrow]; rfl
    refine ⟨⟨(f row).status, (f row).messageId, (f row).error⟩,
      Sys.book_phase_eq_some.2 ⟨f row, hrow', RequestRow.phase_eq_finished.2 ?_⟩⟩
    rw [hst]
    cases hans req hreq with
    | @of req' result _ _ =>
      cases result <;> simp [EmailRequest.answered, EmailMessageStatus.asI32]
  · obtain ⟨f, hf, hout, -⟩ := hget id
    simp only [Sys.book, hf, Option.map_map]
    congr 1
    funext row
    simp [hout hid row]
  · simp only [Sys.book, hnear]
  · simp only [Sys.book, hacc]

/-! ## The steps -/

/-- Rows picked and marked by a scheduler. -/
theorem claim_phase {chosen : List Int} (oldest : OldestDue s.now s.db.requests chosen) (id : Int) :
    (id ∈ chosen → s.book.phase id = some .waiting ∧
      ((claim s.now chosen s.db.requests).get? id).map RequestRow.phase = some .taken) ∧
    (id ∉ chosen →
      ((claim s.now chosen s.db.requests).get? id).map RequestRow.phase = s.book.phase id) := by
  rw [get?_claim]
  refine ⟨?_, ?_⟩
  · intro hid
    obtain ⟨row, hrow, hst, -⟩ := oldest.due hid
    refine ⟨Sys.book_phase_eq_some.2 ⟨row, hrow, RequestRow.phase_eq_waiting.2 hst⟩, ?_⟩
    simp [hrow, hid, RequestRow.phase_eq_taken]
  · intro hid
    simp only [hid, if_false, Option.map_id', Sys.book]

/-- The ids a scheduler keeps after the JOIN: all of them when every content is there. -/
theorem fetched_ids {updated : List UpdatedRow} {rows rows' : List ScheduledEmailRow} {j : ℕ}
    (hbook : Ledger.Inv s.book) (hr : RowsOk E s)
    (scheduler : s.schedulers[j]? = some (.claimed updated))
    (selected : selectScheduled s.db (updated.map (·.id)) = some rows') (perm : rows.Perm rows') :
    (rows.map (·.id) : Multiset Int) ≤ updated.map (·.id) ∧
      (E.foreignKeys = true → (rows.map (·.id) : Multiset Int) = updated.map (·.id)) := by
  have hids := selectScheduled_ids selected
  have hcoe : (rows.map (·.id) : Multiset Int) = (joined s.db (updated.map (·.id))).map Prod.fst := by
    rw [← hids]
    exact Multiset.coe_eq_coe.2 (perm.map _)
  obtain ⟨N, hN, -⟩ := near_setScheduler scheduler
  have hnodup : (updated.map (·.id)).Nodup := by
    have h := (Multiset.nodup_add.1 hbook.nodup).1
    change (s.nearIds : Multiset Int).Nodup at h
    rw [hN] at h
    exact (Multiset.nodup_add.1 h).1
  have hheld : ∀ id ∈ updated.map (·.id), ∃ row, s.db.requests.get? id = some row := by
    intro id hid
    have hmem : id ∈ (s.nearIds : Multiset Int) + (s.farIds : Multiset Int) := by
      rw [hN]
      simp only [Multiset.mem_add]
      exact Or.inl (Or.inl hid)
    obtain ⟨row, hrow, -⟩ := hr.held_row hbook hmem
    exact ⟨row, hrow⟩
  have hsub : ∀ id ∈ (joined s.db (updated.map (·.id))).map Prod.fst, id ∈ updated.map (·.id) := by
    intro id hid
    obtain ⟨⟨id, row, c⟩, hj, rfl⟩ := List.mem_map.1 hid
    exact (mem_joined.1 hj).1
  rw [hcoe]
  refine ⟨(Multiset.le_iff_subset (Multiset.coe_nodup.2 (nodup_joined _ _))).2 hsub, fun hfk => ?_⟩
  refine Multiset.coe_eq_coe.2 ((List.perm_ext_iff_of_nodup (nodup_joined _ _) hnodup).2 ?_)
  refine fun id => ⟨hsub id, fun hid => ?_⟩
  obtain ⟨row, hrow⟩ := hheld id hid
  obtain ⟨c, hcont⟩ := Option.ne_none_iff_exists'.1 (hr.referenced hfk id row hrow)
  exact List.mem_map.2 ⟨(id, row, c), mem_joined.2 ⟨hid, hrow, hcont⟩, rfl⟩

/-- The rows of an immediate payload come in taken, held by the call that saved them. -/
theorem save_move {i : ℕ} {clock : ℕ → Instant} {F : TxFaults} {payload : CreateMessageRequest}
    {contents : List EmailContent} {saved : List EmailRequest} {r : Table RequestRow}
    {response : CreateMessageResponse} {hist : History}
    (handler : s.handlers[i]? = some (.contentsSaved payload contents))
    (immediate : payload.isScheduled = false)
    (save : EmailRequest.saveBatch E s.db.contents clock F (payload.requests contents)
      s.db.requests = .ok (saved, r))
    (hfit : r.seq ≤ i32Max) (hhist : hist.accepted = s.hist.accepted) :
    Ledger.Step .enter s.book
      { s.setHandler i (.next saved HandOff.init response) with
        db := { s.db with requests := r }, hist : Sys }.book := by
  have hmem : ∀ id, _ := fun id => @mem_idsOf_saved _ _ _ _ _ _ _ _ save hfit id
  have hnodup := nodup_idsOf_saved save hfit
  obtain ⟨rows, rfl, hst, -⟩ := EmailRequest.saveBatch_spec save
  have hlen := hst.length_eq
  refine .enterTaken (idsOf saved) hnodup (fun id hid => ?_) (fun id hid => ?_) ?_ rfl ?_
  · obtain ⟨k, hk, hidk⟩ := (hmem id).1 hid
    have hnone : s.db.requests.get? id = none := Table.get?_of_seq_lt (by omega)
    refine ⟨by simp [Sys.book, hnone], ?_⟩
    rcases insert_phase (r := s.db.requests) hst id with h | ⟨row, -, hrow, hstat, -⟩
    · rw [hidk, Table.get?_append_new, ← hidk, hnone,
        List.getElem?_eq_getElem (by omega : k < rows.length)] at h
      simp at h
    · refine Sys.book_phase_eq_some.2 ⟨row, hrow, ?_⟩
      rw [RequestRow.phase_eq_taken, hstat, CreateMessageRequest.status,
        if_neg (by simp [immediate])]
  · rcases insert_phase (r := s.db.requests) hst id with h | ⟨row, -, -, -, hk⟩
    · exact h
    · exact absurd ((hmem id).2 hk) hid
  · obtain ⟨N, hN, hset⟩ := near_setHandler handler
    change ((s.setHandler i _).nearIds : Multiset Int) = _ + (s.nearIds : Multiset Int)
    rw [hset, hN, Handler.ids_next]
    simp [HandOff.init, Handler.ids, Handler.unsent, Handler.failed]
  · simp only [Sys.book, hhist]

/-- The channel takes the next request of a call. -/
theorem handler_accept_move {i : ℕ} {h : Handler} {req : EmailRequest} {rest : List EmailRequest}
    {loop : HandOff} {o : SendOutcome} {response : CreateMessageResponse}
    (handler : s.handlers[i]? = some h) (unsent : h.unsent = req :: rest)
    (failed : h.failed = loop.failed) (ho : o ≠ .closed) (hreq : Fresh req) :
    Ledger.Step .accept s.book
      ((s.accept req).setHandler i (.next rest (loop.settle req o) response)).book := by
  obtain ⟨N, hN, hset⟩ := near_setHandler handler
  refine accept_move hreq rfl rfl ?_ (farIds_accept req)
  change _ = _ + ((s.setHandler i _).nearIds : Multiset Int)
  rw [hN, hset, Handler.ids_next, HandOff.failed_settle ho, Handler.coe_ids, unsent, failed,
    idsOf_cons]
  abel

/-- The channel takes the next request of a scheduler. -/
theorem scheduler_accept_move {j : ℕ} {row : ScheduledEmailRow} {rest : List ScheduledEmailRow}
    (scheduler : s.schedulers[j]? = some (.sending (row :: rest))) (hr : RowsOk E s)
    (hbook : Ledger.Inv s.book) (hfit : s.IdsFit) :
    Ledger.Step .accept s.book ((s.accept row.toRequest).setScheduler j (.next rest)).book := by
  obtain ⟨N, hN, hset⟩ := near_setScheduler scheduler
  have hids : row.toRequest.ids = {row.id} := by
    have hheld : row.id ∈ (s.nearIds : Multiset Int) + (s.farIds : Multiset Int) := by
      rw [hN]
      simp [Scheduler.ids]
    obtain ⟨r, hrow, -⟩ := hr.held_row hbook hheld
    have hle := (Table.le_seq_of_get? hrow).trans hfit
    have hpos := Table.pos_of_get? hrow
    simp [EmailRequest.ids, EmailRequest.rowid, ScheduledEmailRow.toRequest,
      asI32_toInt hpos.le hle]
  refine accept_move row.fresh_toRequest rfl rfl ?_ (farIds_accept _)
  change _ = _ + ((s.setScheduler j _).nearIds : Multiset Int)
  rw [hN, hset, Scheduler.ids_next, hids]
  simp only [Scheduler.ids, List.map_cons, ← Multiset.cons_coe, Multiset.singleton_add,
    Multiset.cons_add]

/-- The rollback gives back what its call held. -/
theorem rollback_move {i : ℕ} {loop : HandOff} {response : CreateMessageResponse}
    (handler : s.handlers[i]? = some (.rollback loop response)) (hr : RowsOk E s)
    (hbook : Ledger.Inv s.book) :
    Ledger.Step .release s.book
      { s.setHandler i (.responded (.ok response)) with
        db := { s.db with requests :=
          rollbackToCreated s.now (loop.failed.filterMap (·.id)) s.db.requests } : Sys }.book := by
  obtain ⟨N, hN, hset⟩ := near_setHandler handler
  refine .release (idsOf loop.failed) (fun id hid => ?_) (fun id hid => ?_) ?_ rfl rfl
  · obtain ⟨row, hrow, -⟩ := hr.held_row hbook (mem_near_of_failed handler hid)
    have hid' : id ∈ loop.failed.filterMap (·.rowid) := hid
    simp only [Sys.book, get?_rollbackToCreated, hrow, Option.map_some, hid', if_true,
      Option.some.injEq, RequestRow.phase_eq_waiting]
  · have hid' : id ∉ loop.failed.filterMap (·.rowid) := hid
    simp only [Sys.book, get?_rollbackToCreated, hid', if_false, Option.map_id']
  · change (s.nearIds : Multiset Int) = _ + ((s.setHandler i _).nearIds : Multiset Int)
    rw [hset, hN, Handler.coe_ids]
    simp [Handler.ids, Handler.unsent, Handler.failed]

/-- A scheduler takes the rows it claims. -/
theorem claim_move {j : ℕ} {chosen : List Int} {updated : List UpdatedRow}
    (scheduler : s.schedulers[j]? = some .idle) (oldest : OldestDue s.now s.db.requests chosen)
    (returned : returning (claim s.now chosen s.db.requests) chosen = some updated) :
    Ledger.Step .take s.book
      { s.setScheduler j (if updated.isEmpty then .idle else .claimed updated) with
        db := { s.db with requests := claim s.now chosen s.db.requests } : Sys }.book := by
  obtain ⟨N, hN, hset⟩ := near_setScheduler scheduler
  refine .take chosen oldest.1 (fun id hid => (claim_phase oldest id).1 hid)
    (fun id hid => (claim_phase oldest id).2 hid) ?_ rfl rfl
  change ((s.setScheduler j _).nearIds : Multiset Int) = _ + (s.nearIds : Multiset Int)
  rw [hset, hN, Scheduler.ids_ofUpdated, returning_ids returned]
  simp [Scheduler.ids]

theorem stop_move (topicId : String) :
    Ledger.Step .stop s.book
      { s with db := { s.db with
        requests := EmailRequest.stopTopic s.now topicId s.db.requests } : Sys }.book := by
  refine .stop (fun id => ?_) rfl rfl rfl
  cases hrow : s.db.requests.get? id with
  | none => exact Or.inl (by simp [Sys.book, get?_stopTopic, hrow])
  | some row =>
    by_cases hst : row.status = EmailMessageStatus.created.asI32 ∧ row.topicId = topicId
    · refine Or.inr ⟨?_, ?_⟩
      · exact Sys.book_phase_eq_some.2 ⟨row, hrow, RequestRow.phase_eq_waiting.2 hst.1⟩
      · simp [Sys.book, get?_stopTopic, hrow, hst, RequestRow.phase_eq_stopped]
    · exact Or.inl (by simp [Sys.book, get?_stopTopic, hrow, hst])

/-- One statement finishes the batch. -/
theorem flush_move {batch : List EmailRequest} {last : Bool} {r : Table RequestRow}
    (post : s.post = .flushing batch last)
    (written : bulkUpdateAll s.now batch s.db.requests = some r) (hc : Carried E s)
    (hbook : Ledger.Inv s.book) :
    Ledger.Step .finish s.book
      { s with db := { s.db with requests := r }, post := .afterFlush last : Sys }.book := by
  have hb : s.post.batch = batch := by rw [post]; rfl
  refine finish_move batch (hb ▸ hc.batch) hbook ?_ rfl rfl fun id => ?_
  · rw [Sys.coe_farIds, Sys.coe_farIds]
    simp only [hb, PostProcessor.batch_afterFlush, idsOf_nil]
    abel
  · refine ⟨_, get?_bulkUpdateAll written id, fun hid row => ?_, fun req hreq hid row => ?_⟩
    · rw [if_neg]
      intro hmem
      obtain ⟨req, hreq, hrid⟩ := List.mem_map.1 hmem
      exact hid (mem_idsOf.2 ⟨req, hreq, hrid⟩)
    · rw [if_pos (List.mem_map.2 ⟨req, hreq, hid⟩),
        bulkWritten_of_nodup (hb ▸ nodup_batch hbook) hreq hid]

/-- The fallback finishes one request of the batch. -/
theorem update_move {req : EmailRequest} {rest : List EmailRequest} {last : Bool}
    (post : s.post = .draining (req :: rest) last) (hc : Carried E s)
    (hbook : Ledger.Inv s.book) :
    Ledger.Step .finish s.book
      { s with
        db := { s.db with requests := req.update s.now s.db.requests }
        post := if rest.isEmpty then .afterFlush last else .draining rest last : Sys }.book := by
  have hb : s.post.batch = req :: rest := by rw [post]; rfl
  have hans := hc.batch req (hb ▸ List.mem_cons_self)
  refine finish_move [req] (by simpa using hans) hbook ?_ rfl rfl fun id => ?_
  · rw [Sys.coe_farIds, Sys.coe_farIds]
    simp only [hb, PostProcessor.batch_drained, idsOf_cons, idsOf_nil]
    abel
  · refine ⟨_, get?_update s.now req s.db.requests id, fun hid row => ?_, fun r hr hid row => ?_⟩
    · rw [if_neg]
      exact fun h => hid (mem_idsOf.2 ⟨req, List.mem_singleton_self _, h⟩)
    · obtain rfl := List.mem_singleton.1 hr
      rw [if_pos hid]

theorem Sys.Step.refines (hs : s.Step E e t) (hc : Carried E s) (hr : RowsOk E s)
    (hbook : Ledger.Inv s.book) (hfit : t.IdsFit) :
    ∃ m, Ledger.Step m s.book t.book ∧
      (E.foreignKeys = true → e.failureFree → m ≠ .lose) := by
  cases hs with
  | tick => exact ⟨_, .idle (fun _ => rfl) rfl rfl rfl, by simp⟩
  | request payload =>
    refine ⟨_, .idle (fun _ => rfl) ?_ rfl rfl, by simp⟩
    simp [Sys.book, Sys.nearIds, Handler.ids, Handler.unsent, Handler.failed]
  | contentsRefused response handler =>
    exact ⟨_, .idle (fun _ => rfl) (near_same handler rfl) rfl rfl, by simp⟩
  | contentsSaved handler save =>
    exact ⟨_, .idle (fun _ => rfl) (near_same handler rfl) rfl rfl, by simp⟩
  | requestsRefused response handler =>
    exact ⟨_, .idle (fun _ => rfl) (near_same handler rfl) rfl rfl, by simp⟩
  | @scheduledSaved i clock F payload contents saved t' response handler scheduled save =>
    obtain ⟨rows, rfl, hst, -⟩ := EmailRequest.saveBatch_spec save
    refine ⟨_, .enter (fun id => ?_) (near_same handler rfl) rfl rfl, by simp⟩
    rcases insert_phase (r := s.db.requests) hst id with h | ⟨row, hnone, hrow, hstat, -⟩
    · exact Or.inl h
    · refine Or.inr ⟨by simp [Sys.book, hnone], Sys.book_phase_eq_some.2 ⟨row, hrow, ?_⟩⟩
      rw [RequestRow.phase_eq_waiting, hstat, CreateMessageRequest.status, if_pos scheduled]
  | immediateSaved _ handler immediate save =>
    exact ⟨_, save_move handler immediate save hfit rfl, by simp⟩
  | handOffFailed handler =>
    refine ⟨_, .idle (fun _ => rfl) (near_same handler ?_) rfl rfl, by simp⟩
    rw [Handler.ids_next, Handler.coe_ids]
    simp only [Handler.unsent, Handler.failed, HandOff.failed_step_closed, idsOf_append,
      idsOf_cons, idsOf_nil, EmailRequest.ids_markCreated]
    abel
  | handOffAccepted handler =>
    have hreq := hc.unsent _ (mem_handlers handler List.mem_cons_self)
    exact ⟨_, handler_accept_move handler rfl rfl (by decide) hreq, by simp⟩
  | handOffBlocked handler =>
    exact ⟨_, .idle (fun _ => rfl) (near_same handler rfl) rfl rfl, by simp⟩
  | blockedAccepted handler =>
    have hreq := hc.unsent _ (mem_handlers handler List.mem_cons_self)
    exact ⟨_, handler_accept_move handler rfl rfl (by decide) hreq, by simp⟩
  | blockedClosed handler =>
    refine ⟨_, handler_lose_move handler ?_, by simp [Event.failureFree]⟩
    rw [Handler.ids_next, HandOff.failed_settle (by decide), Handler.coe_ids]
    simp only [Handler.unsent, Handler.failed, idsOf_cons, add_assoc]
    exact Multiset.le_add_left _ _
  | rolledBack handler => exact ⟨_, rollback_move handler hr hbook, by simp⟩
  | rollbackFailed handler =>
    exact ⟨_, handler_lose_move handler (Multiset.zero_le _), by simp [Event.failureFree]⟩
  | dropHandler handler =>
    exact ⟨_, handler_lose_move handler (Multiset.zero_le _), by simp [Event.failureFree]⟩
  | spawnScheduler =>
    refine ⟨_, .idle (fun _ => rfl) ?_ rfl rfl, by simp⟩
    simp [Sys.book, Sys.nearIds, Scheduler.ids]
  | claimFailed => exact ⟨_, .idle (fun _ => rfl) rfl rfl rfl, by simp⟩
  | @claimUnread j chosen scheduler oldest returned =>
    have hin : ∀ id ∈ chosen, ∃ row x, (claim s.now chosen s.db.requests).get? id = some row ∧
        decodeI32 row.contentId = some x := by
      intro id hid
      obtain ⟨row, hrow, -⟩ := oldest.due hid
      have hrow' := get?_claim s.now chosen s.db.requests id
      rw [hrow, Option.map_some] at hrow'
      obtain ⟨x, hx⟩ := hr.decodes.claim s.now chosen id _ hrow'
      exact ⟨_, x, hrow', hx⟩
    obtain ⟨updated, hup⟩ := returning_isSome hin
    rw [hup] at returned
    cases returned
  | claimed scheduler oldest returned => exact ⟨_, claim_move scheduler oldest returned, by simp⟩
  | fetchFailed scheduler =>
    exact ⟨_, scheduler_lose_move scheduler (Multiset.zero_le _), by simp [Event.failureFree]⟩
  | @fetchUnread j rows updated scheduler selected =>
    obtain ⟨rows', hrows'⟩ := selectScheduled_isSome (updated.map (·.id))
      fun id _ row hrow => hr.decodes id row hrow
    rw [hrows'] at selected
    cases selected
  | @fetched j rows rows' updated scheduler selected perm =>
    obtain ⟨hle, heq⟩ := fetched_ids hbook hr scheduler selected perm
    by_cases hfk : E.foreignKeys = true
    · obtain ⟨N, hN, hset⟩ := near_setScheduler scheduler
      refine ⟨_, .idle (fun _ => rfl) ?_ rfl rfl, by simp⟩
      change ((s.setScheduler j _).nearIds : Multiset Int) = (s.nearIds : Multiset Int)
      rw [hset, hN, Scheduler.ids_next, heq hfk]
      rfl
    · refine ⟨_, scheduler_lose_move scheduler ?_, fun h => absurd h hfk⟩
      rw [Scheduler.ids_next]
      exact hle
  | schedulerSent scheduler =>
    exact ⟨_, scheduler_accept_move scheduler hr hbook hfit, by simp⟩
  | schedulerClosed scheduler =>
    exact ⟨_, scheduler_lose_move scheduler (Multiset.zero_le _), by simp [Event.failureFree]⟩
  | stopTopic topicId => exact ⟨_, stop_move topicId, by simp⟩
  | stopTopicFailed => exact ⟨_, .idle (fun _ => rfl) rfl rfl rfl, by simp⟩
  | @recv req queue sender queued =>
    refine ⟨_, .idle (fun _ => rfl) rfl ?_ rfl, by simp⟩
    rw [Sys.book_far, Sys.book_far]
    simp only [sender, queued, SenderLoop.held, Option.toList, idsOf_cons, idsOf_nil]
    abel
  | @spawnTask req sender =>
    refine ⟨_, .idle (fun _ => rfl) rfl ?_ rfl, by simp⟩
    rw [Sys.book_far, Sys.book_far]
    simp only [sender, SenderLoop.held, Option.toList, idsOf_cons, idsOf_nil, List.flatMap_append,
      idsOf_append, List.flatMap_cons, List.flatMap_nil, SendTask.unanswered, SendTask.answers]
    abel
  | @callSes k req task =>
    obtain ⟨N, hN, hset⟩ := far_setTask task
    refine ⟨_, .idle (fun _ => rfl) rfl ?_ rfl, by simp⟩
    change ((s.setTask k _).farIds : Multiset Int) = (s.farIds : Multiset Int)
    rw [hset, hN]
    rfl
  | @sesReturn k calls req result task answer =>
    obtain ⟨N, hN, hset⟩ := far_setTask task
    refine ⟨_, .idle (fun _ => rfl) rfl ?_ rfl, by simp⟩
    change ((s.setTask k _).farIds : Multiset Int) = (s.farIds : Multiset Int)
    rw [hset, hN]
    simp [SendTask.unanswered, SendTask.answers]
  | @postSent k req task =>
    obtain ⟨N, hN, hset⟩ := far_setTask task
    have hdone := hset .done
    rw [Sys.coe_farIds] at hdone
    refine ⟨_, .idle (fun _ => rfl) rfl ?_ rfl, by simp⟩
    change (Sys.farIds _ : Multiset Int) = (s.farIds : Multiset Int)
    rw [Sys.coe_farIds, hN]
    simp only [SendTask.unanswered, SendTask.answers, Sys.setTask, Channel.push, idsOf_append,
      idsOf_cons, idsOf_nil, zero_add, add_zero] at hdone ⊢
    rw [← hdone]
    abel
  | @postSendClosed k req task =>
    obtain ⟨N, hN, hset⟩ := far_setTask task
    refine ⟨_, .lose (fun _ => Or.inl rfl) le_rfl ?_ rfl, by simp [Event.failureFree]⟩
    change ((s.setTask k _).farIds : Multiset Int) ≤ (s.farIds : Multiset Int)
    rw [hset, hN]
    simp only [SendTask.unanswered, SendTask.answers, idsOf_nil, zero_add]
    exact Multiset.le_add_left _ _
  | senderStops =>
    refine ⟨_, .lose (fun _ => Or.inl rfl) le_rfl ?_ rfl, by simp [Event.failureFree]⟩
    rw [Sys.book_far, Sys.book_far]
    simp only [Channel.close, SenderLoop.held, idsOf_nil]
    gcongr <;> exact Multiset.zero_le _
  | @postRecv elapsed batch req queue post queued =>
    have hb : s.post.batch = batch := by rw [post]; rfl
    refine ⟨_, .idle (fun _ => rfl) rfl ?_ rfl, by simp⟩
    rw [Sys.book_far, Sys.book_far]
    simp only [hb, queued, PostProcessor.batch_received, idsOf_append, idsOf_cons, idsOf_nil]
    abel
  | @postTimeout elapsed batch post =>
    have hb : s.post.batch = batch := by rw [post]; rfl
    refine ⟨_, .idle (fun _ => rfl) rfl ?_ rfl, by simp⟩
    rw [Sys.book_far, Sys.book_far]
    simp only [hb, PostProcessor.batch_timeout]
  | @postClosed batch post =>
    have hb : s.post.batch = batch := by rw [post]; rfl
    refine ⟨_, .idle (fun _ => rfl) rfl ?_ rfl, by simp⟩
    rw [Sys.book_far, Sys.book_far]
    simp only [hb, PostProcessor.batch_closed]
  | flushed post written => exact ⟨_, flush_move post written hc hbook, by simp⟩
  | @flushFailed batch last ok post =>
    refine ⟨_, .idle (fun _ => rfl) rfl ?_ rfl, by simp⟩
    rw [Sys.book_far, Sys.book_far]
    simp only [post, PostProcessor.batch]
  | updated post => exact ⟨_, update_move post hc hbook, by simp⟩
  | @updateFailed req rest last post =>
    have hb : s.post.batch = req :: rest := by rw [post]; rfl
    refine ⟨_, .lose (fun _ => Or.inl rfl) le_rfl ?_ rfl, by simp [Event.failureFree]⟩
    rw [Sys.book_far, Sys.book_far]
    simp only [hb, PostProcessor.batch_drained, idsOf_cons]
    gcongr
    exact Multiset.le_add_left _ _
  | postStops =>
    refine ⟨_, .lose (fun _ => Or.inl rfl) le_rfl ?_ rfl, by simp [Event.failureFree]⟩
    rw [Sys.book_far, Sys.book_far]
    simp only [Channel.close, PostProcessor.batch, idsOf_nil]
    gcongr <;> exact Multiset.zero_le _
  | notifyRefused => exact ⟨_, .idle (fun _ => rfl) rfl rfl rfl, by simp⟩
  | notified => exact ⟨_, .idle (fun _ => rfl) rfl rfl rfl, by simp⟩
  | openRefused => exact ⟨_, .idle (fun _ => rfl) rfl rfl rfl, by simp⟩
  | opened => exact ⟨_, .idle (fun _ => rfl) rfl rfl rfl, by simp⟩
  | resultSaved => exact ⟨_, .idle (fun _ => rfl) rfl rfl rfl, by simp⟩
  | resultRefused => exact ⟨_, .idle (fun _ => rfl) rfl rfl rfl, by simp⟩
  | restart =>
    refine ⟨_, .lose (fun _ => Or.inl rfl) ?_ ?_ rfl, by simp [Event.failureFree]⟩
    · exact Multiset.zero_le _
    · exact Multiset.zero_le _

/-! ## Runs -/

structure Sys.Inv (E : Env) (s : Sys) : Prop where
  carried : Carried E s
  rows : RowsOk E s
  book : Ledger.Inv s.book

theorem Sys.Inv.step (hs : s.Step E e t) (hfit : t.IdsFit) (h : s.Inv E) : t.Inv E := by
  obtain ⟨m, hm, -⟩ := hs.refines h.carried h.rows h.book hfit
  exact ⟨h.carried.step hs, h.rows.step hs h.carried h.book, hm.inv h.book⟩

theorem Sys.Inv.init (E : Env) (now : Instant) : (Sys.init now).Inv E :=
  ⟨Carried.init E now, RowsOk.init E now, by
    constructor <;> simp [Sys.book, Sys.init, Sys.boot, Sys.nearIds, Sys.farIds, Sys.farRequests,
      Channel.open, SenderLoop.held, PostProcessor.batch]⟩

theorem Sys.Inv.run {evs : List Event} (h : Exec.run (Sys.step E) s evs = some t)
    (hfit : t.IdsFit) (hs : s.Inv E) : t.Inv E :=
  Exec.run_invariant (G := Sys.IdsFit) (I := Sys.Inv E) (P := fun _ => True)
    (fun h ht => (Sys.Step.of_step h).idsFit ht)
    (fun h _ ht hs => hs.step (Sys.Step.of_step h) ht) h (fun _ _ => trivial) hfit hs

theorem Run.inv {now₀ : Instant} {evs : List Event} (h : Run E now₀ evs s) (hfit : s.IdsFit) :
    s.Inv E :=
  (Sys.Inv.init E now₀).run h hfit

/-- A row that was stopped, or whose delivery ended, is in that phase for good. -/
theorem terminal_of_run {evs : List Event} (h : Exec.run (Sys.step E) s evs = some t)
    (hfit : t.IdsFit) (hs : s.Inv E) {id : Int}
    (hterm : s.book.phase id = some .stopped ∨ ∃ a, s.book.phase id = some (.finished a)) :
    t.book.phase id = s.book.phase id := by
  induction evs generalizing s with
  | nil => rw [Exec.run_nil.1 h]
  | cons e evs ih =>
    obtain ⟨u, hu, hrun⟩ := Exec.run_cons.1 h
    have hstep := Sys.Step.of_step hu
    have hufit : u.IdsFit := (grows_of_run hrun).seq.trans hfit
    obtain ⟨m, hm, -⟩ := hstep.refines hs.carried hs.rows hs.book hufit
    have hsame := (hm.change hs.book id).terminal hterm
    rw [ih hrun (hs.step hstep hufit) (hsame ▸ hterm), hsame]

/-- Nothing is dropped while nothing fails. -/
theorem Run.conserved {now₀ : Instant} {evs : List Event} (h : Run E now₀ evs s)
    (hfit : s.IdsFit) (hfk : E.foreignKeys = true) (hev : ∀ e ∈ evs, e.failureFree) :
    Ledger.Conserved s.book := by
  have hall : s.Inv E ∧ Ledger.Conserved s.book := by
    refine Exec.run_invariant (G := Sys.IdsFit) (I := fun s => s.Inv E ∧ Ledger.Conserved s.book)
      (fun h ht => (Sys.Step.of_step h).idsFit ht) (fun h hff ht hs => ?_) h hev hfit
      ⟨Sys.Inv.init E now₀, ?_⟩
    · have hstep := Sys.Step.of_step h
      obtain ⟨m, hm, hkeep⟩ := hstep.refines hs.1.carried hs.1.rows hs.1.book ht
      exact ⟨hs.1.step hstep ht, hm.conserved (hkeep hfk hff) hs.2⟩
    · intro id hid
      simp [Sys.book, Sys.init, Sys.boot, Db.empty] at hid
  exact hall.2

end Ses
