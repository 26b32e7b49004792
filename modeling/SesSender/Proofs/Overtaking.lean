import SesSender.Lib.Progress
import SesSender.Proofs.Backlog

/-! How often a row that is due can be passed over. What the scheduler picks
instead is scheduled no later, and never waits again. -/

namespace Ses

open Calendar

variable {E : Env} {s t : Sys} {e : Event}

/-- A poll that finds the row due and does not pick it. -/
def passesOver (id : Int) (s : Sys) : Event → Bool
  | .claimBatch _ chosen true => (s.db.requests.get? id).any (due s.now) && decide (id ∉ chosen)
  | _ => false

/-- The other rows scheduled no later than `at`, as text, that wait no longer. -/
def overtaking (id : Int) (scheduledAt : String) (t : Table RequestRow) : List (Int × RequestRow) :=
  t.rows.filter fun r => r.1 ≠ id ∧ r.2.scheduledAt ≤ scheduledAt ∧
    r.2.status ≠ EmailMessageStatus.created.asI32

/-! ## What waits no longer never waits again -/

/-- The rows the handlers may still give back. -/
def Sys.handlerIds (s : Sys) : List Int := s.handlers.flatMap (·.ids)

/-- What the channel refuses joins the rollback list, nothing else does. -/
theorem HandOff.mem_failed_settle {loop : HandOff} {req : EmailRequest} {o : SendOutcome} {id : Int}
    (hid : id ∈ (loop.settle req o).failed.filterMap (·.rowid)) :
    id ∈ (req :: loop.failed).filterMap (·.rowid) := by
  have hsub : ∀ r ∈ (loop.settle req o).failed, r ∈ loop.failed ∨ r = req.markCreated := by
    intro r hr
    cases o with
    | closed => simpa [HandOff.settle] using hr
    | _ => exact Or.inl hr
  obtain ⟨r, hr, hrid⟩ := List.mem_filterMap.1 hid
  rcases hsub r hr with hr | rfl
  · exact List.mem_filterMap.2 ⟨r, List.mem_cons_of_mem _ hr, hrid⟩
  · exact List.mem_filterMap.2 ⟨req, List.mem_cons_self, hrid⟩

/-- A hand-off that goes on holds nothing it did not hold. -/
theorem Handler.mem_ids_next {req : EmailRequest} {rest : List EmailRequest} {loop loop' : HandOff}
    {response : CreateMessageResponse} {id : Int}
    (hsub : id ∈ loop'.failed.filterMap (·.rowid) → id ∈ (req :: loop.failed).filterMap (·.rowid))
    (hid : id ∈ (Handler.next rest loop' response).ids) :
    id ∈ ((req :: rest) ++ loop.failed).filterMap (·.rowid) := by
  rw [Handler.ids, Handler.unsent_next, Handler.failed_next, List.filterMap_append,
    List.mem_append] at hid
  have hperm : ((req :: loop.failed) ++ rest).Perm ((req :: rest) ++ loop.failed) :=
    List.Perm.cons req List.perm_append_comm
  refine (hperm.filterMap _).subset ?_
  rw [List.filterMap_append, List.mem_append]
  exact hid.symm.imp hsub fun h => h

/-- A call takes hold of new rows only. -/
theorem Sys.Step.handlerIds (hs : s.Step E e t) (hfit : t.IdsFit) {id : Int}
    (hid : id ∈ t.handlerIds) : id ∈ s.handlerIds ∨ s.db.requests.seq < id := by
  have hset : ∀ {u : Sys} {i : ℕ} {h h' : Handler}, u.handlers = s.handlers →
      s.handlers[i]? = some h → id ∈ (u.setHandler i h').handlerIds →
      (id ∈ h'.ids → id ∈ h.ids) → id ∈ s.handlerIds := by
    intro u i h h' hu hi hmem hsub
    rcases Lists.mem_flatMap_set hmem with hmem | hmem
    · exact List.mem_flatMap.2 ⟨h, List.mem_of_getElem? hi, hsub hmem⟩
    · rwa [hu] at hmem
  have hnone : ∀ {l : List Int}, id ∈ ([] : List Int) → id ∈ l :=
    fun h => absurd h List.not_mem_nil
  cases hs with
  | request => simpa [Sys.handlerIds, Handler.ids, Handler.unsent, Handler.failed] using Or.inl hid
  | contentsRefused _ handler => exact Or.inl (hset rfl handler hid hnone)
  | contentsSaved handler => exact Or.inl (hset rfl handler hid hnone)
  | requestsRefused _ handler => exact Or.inl (hset rfl handler hid hnone)
  | scheduledSaved _ handler => exact Or.inl (hset rfl handler hid hnone)
  | @immediateSaved i _ _ payload contents saved r _ handler immediate save =>
    rcases Lists.mem_flatMap_set hid with hmem | hmem
    · rw [Handler.ids, Handler.unsent_next, Handler.failed_next] at hmem
      simp only [HandOff.init, List.append_nil] at hmem
      rw [save_rowids save hfit, List.mem_map] at hmem
      obtain ⟨k, -, rfl⟩ := hmem
      exact Or.inr (by omega)
    · exact Or.inl hmem
  | handOffFailed handler =>
    refine Or.inl (hset rfl handler hid (Handler.mem_ids_next fun hmem => ?_))
    rw [HandOff.failed_step_closed] at hmem
    exact HandOff.mem_failed_settle (o := .closed) hmem
  | handOffAccepted handler =>
    exact Or.inl (hset rfl handler hid (Handler.mem_ids_next HandOff.mem_failed_settle))
  | handOffBlocked handler => exact Or.inl (hset rfl handler hid fun h => h)
  | blockedAccepted handler =>
    exact Or.inl (hset rfl handler hid (Handler.mem_ids_next HandOff.mem_failed_settle))
  | blockedClosed handler =>
    exact Or.inl (hset rfl handler hid (Handler.mem_ids_next HandOff.mem_failed_settle))
  | rolledBack handler => exact Or.inl (hset rfl handler hid hnone)
  | rollbackFailed handler => exact Or.inl (hset rfl handler hid hnone)
  | dropHandler handler => exact Or.inl (hset rfl handler hid hnone)
  | restart => cases hid
  | _ => exact Or.inl hid

/-- The answer of a delivery is no return to waiting. -/
theorem Answered.status_ne {returned : List (EmailRequest × Except SendEmailError String)}
    {req : EmailRequest} (h : Answered returned req) :
    req.status ≠ EmailMessageStatus.created.asI32 := by
  cases h with
  | @of req result _ _ => cases result <;> exact nofun

/-- Only a rollback makes a row wait again, and only one a handler holds. -/
theorem Sys.Step.status_ne (hs : s.Step E e t) (h : s.Inv E) {id : Int} {row row' : RequestRow}
    (hrow : s.db.requests.get? id = some row) (hrow' : t.db.requests.get? id = some row')
    (hne : row.status ≠ EmailMessageStatus.created.asI32) (hid : id ∉ s.handlerIds) :
    row'.status ≠ EmailMessageStatus.created.asI32 := by
  have hreq := hs.requests
  generalize t.db.requests = r at hreq hrow'
  cases hreq with
  | same =>
    obtain rfl := Option.some.inj (hrow.symm.trans hrow')
    exact hne
  | insert =>
    rw [Table.get?_append_old (Table.le_seq_of_get? hrow), hrow] at hrow'
    exact Option.some.inj hrow' ▸ hne
  | @rollback i loop response handler =>
    rw [get?_rollbackToCreated, hrow] at hrow'
    obtain rfl := Option.some.inj hrow'
    split_ifs with hmem
    · exact absurd (List.mem_flatMap.2 ⟨_, List.mem_of_getElem? handler, hmem⟩) hid
    · exact hne
  | claim =>
    rw [get?_claim, hrow] at hrow'
    obtain rfl := Option.some.inj hrow'
    split_ifs
    · exact nofun
    · exact hne
  | stop =>
    rw [get?_stopTopic, hrow] at hrow'
    obtain rfl := Option.some.inj hrow'
    beta_reduce
    split_ifs with hst
    · exact absurd hst.1 hne
    · exact hne
  | @bulk batch last r post written =>
    rw [get?_bulkUpdateAll written, hrow] at hrow'
    obtain rfl := Option.some.inj hrow'
    have hb : s.post.batch = batch := by rw [post]; rfl
    beta_reduce
    split_ifs with hmem
    · obtain ⟨req, hreq, hrid⟩ := List.mem_map.1 hmem
      rw [bulkWritten_of_nodup (hb ▸ nodup_batch h.book) hreq hrid]
      exact (h.carried.batch req (hb ▸ hreq)).status_ne
    · exact hne
  | @update req rest last post =>
    rw [get?_update, hrow] at hrow'
    obtain rfl := Option.some.inj hrow'
    have hb : s.post.batch = req :: rest := by rw [post]; rfl
    split_ifs
    · exact (h.carried.batch req (hb ▸ List.mem_cons_self)).status_ne
    · exact hne

/-- Nobody can give back a row that waits. -/
theorem Sys.Inv.not_mem_handlerIds (h : s.Inv E) {id : Int} {row : RequestRow}
    (hrow : s.db.requests.get? id = some row)
    (hst : row.status = EmailMessageStatus.created.asI32) : id ∉ s.handlerIds := by
  intro hmem
  have hheld := mem_heldIds.1 (List.mem_append_left _ (List.mem_append_left _ hmem))
  obtain ⟨row', hrow', hst', -⟩ := h.rows.held_row h.book hheld
  obtain rfl := Option.some.inj (hrow.symm.trans hrow')
  rw [hst] at hst'
  cases hst'

theorem status_ne_of_run {evs : List Event} {id : Int} {row row' : RequestRow}
    (hrun : Exec.run (Sys.step E) s evs = some t) (hfit : t.IdsFit) (h : s.Inv E)
    (hrow : s.db.requests.get? id = some row) (hid : id ∉ s.handlerIds)
    (hne : row.status ≠ EmailMessageStatus.created.asI32)
    (hrow' : t.db.requests.get? id = some row') :
    row'.status ≠ EmailMessageStatus.created.asI32 := by
  induction evs generalizing s row with
  | nil =>
    obtain rfl := Exec.run_nil.1 hrun
    obtain rfl := Option.some.inj (hrow.symm.trans hrow')
    exact hne
  | cons e evs ih =>
    obtain ⟨u, hu, hr⟩ := Exec.run_cons.1 hrun
    have hs := Sys.Step.of_step hu
    have hufit : u.IdsFit := (grows_of_run hr).seq.trans hfit
    obtain ⟨row₁, hrow₁, -⟩ := hs.grows.rows id row hrow
    refine ih hr (h.step hs hufit) hrow₁ (fun hmem => ?_) (hs.status_ne h hrow hrow₁ hne hid)
    have := Table.le_seq_of_get? hrow
    rcases hs.handlerIds hufit hmem with hmem | hlt
    · exact hid hmem
    · omega

/-! ## What has overtaken a row -/

/-- The ids have overtaken `id`: they are of rows scheduled no later than it, which
wait no longer and which nobody can give back. -/
structure Overtook (id : Int) (scheduledAt : String) (s : Sys) (ids : List Int) : Prop where
  nodup : ids.Nodup
  rows : ∀ i ∈ ids, i ≠ id ∧ i ∉ s.handlerIds ∧ ∃ row, s.db.requests.get? i = some row ∧
    row.scheduledAt ≤ scheduledAt ∧ row.status ≠ EmailMessageStatus.created.asI32

variable {id : Int} {scheduledAt : String} {ids : List Int}

theorem Overtook.step (ho : Overtook id scheduledAt s ids) (hs : s.Step E e t) (h : s.Inv E)
    (hfit : t.IdsFit) : Overtook id scheduledAt t ids := by
  refine ⟨ho.nodup, fun i hi => ?_⟩
  obtain ⟨hne, hnot, row, hrow, hat, hst⟩ := ho.rows i hi
  obtain ⟨row', hrow', hat'⟩ := hs.requests.rows hrow
  refine ⟨hne, fun hmem => ?_, row', hrow', hat' ▸ hat, hs.status_ne h hrow hrow' hst hnot⟩
  have := Table.le_seq_of_get? hrow
  rcases hs.handlerIds hfit hmem with hmem | hlt
  · exact hnot hmem
  · omega

/-- A poll that passes the row over picks a full batch of others. -/
theorem Overtook.pass (ho : Overtook id scheduledAt s ids) (h : s.Inv E) {row : RequestRow}
    (hrow : s.db.requests.get? id = some row) (hat : row.scheduledAt = scheduledAt)
    (hdue : due s.now row = true) {chosen : List Int}
    (hold : OldestDue s.now s.db.requests chosen) (hid : id ∉ chosen) {u : Sys}
    (hhandlers : u.handlers = s.handlers)
    (hrequests : u.db.requests = claim s.now chosen s.db.requests) :
    Overtook id scheduledAt u (chosen ++ ids) ∧ chosen.length = Scheduler.BATCH_SIZE := by
  have hwaiting : ∀ i ∈ chosen, ∃ row, s.db.requests.get? i = some row ∧
      row.status = EmailMessageStatus.created.asI32 := by
    intro i hi
    obtain ⟨row', hrow', hst, -⟩ := hold.due hi
    exact ⟨row', hrow', hst⟩
  have holdest : ∀ i ∈ chosen, ∀ row', s.db.requests.get? i = some row' →
      row'.scheduledAt ≤ scheduledAt :=
    fun i hi row' hrow' => hat ▸ hold.oldest hi hid hrow' hrow hdue
  obtain ⟨hnodup, hsub, hlen, -⟩ := hold
  refine ⟨⟨List.nodup_append.2 ⟨hnodup, ho.nodup, ?_⟩, fun i hi => ?_⟩, ?_⟩
  · -- what has overtaken before does not wait, what is picked does
    rintro i hi j hj rfl
    obtain ⟨-, -, row', hrow', -, hst⟩ := ho.rows i hj
    obtain ⟨row'', hrow'', hst'⟩ := hwaiting i hi
    obtain rfl := Option.some.inj (hrow'.symm.trans hrow'')
    exact hst hst'
  · have hget := get?_claim s.now chosen s.db.requests i
    rw [← hrequests] at hget
    have hhandler : u.handlerIds = s.handlerIds := by rw [Sys.handlerIds, hhandlers]; rfl
    rcases List.mem_append.1 hi with hi | hi
    · obtain ⟨row', hrow', hst⟩ := hwaiting i hi
      rw [hrow', Option.map_some, if_pos hi] at hget
      exact ⟨fun heq => hid (heq ▸ hi), hhandler ▸ h.not_mem_handlerIds hrow' hst, _, hget,
        holdest i hi row' hrow', nofun⟩
    · obtain ⟨hne, hnot, row', hrow', hat', hst⟩ := ho.rows i hi
      rw [hrow', Option.map_some] at hget
      refine ⟨hne, hhandler ▸ hnot, _, hget, ?_, ?_⟩
      · split_ifs <;> exact hat'
      · split_ifs
        · exact nofun
        · exact hst
  · have hdueMem : id ∈ (dueRows s.now s.db.requests).map Prod.fst :=
      List.mem_map.2 ⟨(id, row), mem_dueRows.2 ⟨hrow, hdue⟩, rfl⟩
    have hmore : (id :: chosen).length ≤ ((dueRows s.now s.db.requests).map Prod.fst).length := by
      refine (List.subperm_of_subset (List.nodup_cons.2 ⟨hid, hnodup⟩) ?_).length_le
      rintro i (_ | ⟨_, hi⟩)
      · exact hdueMem
      · exact hsub i hi
    rw [List.length_cons, List.length_map] at hmore
    omega

/-- A poll that passes the row over adds a full batch, no other event adds any. -/
theorem Overtook.event (ho : Overtook id scheduledAt s ids) (hstep : Sys.step E s e = some t)
    (h : s.Inv E) (hfit : t.IdsFit)
    (hat : ∀ row, s.db.requests.get? id = some row → row.scheduledAt = scheduledAt) :
    ∃ ids', Overtook id scheduledAt t ids' ∧
      ids'.length = Scheduler.BATCH_SIZE * (passesOver id s e).toNat + ids.length := by
  have hs := Sys.Step.of_step hstep
  cases hpass : passesOver id s e with
  | false => exact ⟨ids, ho.step hs h hfit, (Nat.zero_add _).symm⟩
  | true =>
    unfold passesOver at hpass
    split at hpass
    · rename_i j chosen
      rw [Bool.and_eq_true, decide_eq_true_eq] at hpass
      obtain ⟨row, hrow, hdue⟩ := (Option.any_eq_true _ _).1 hpass.1
      have hfull : ∀ c : Scheduler, OldestDue s.now s.db.requests chosen →
          Overtook id scheduledAt { s.setScheduler j c with
            db := { s.db with requests := claim s.now chosen s.db.requests } } (chosen ++ ids) ∧
          chosen.length = Scheduler.BATCH_SIZE :=
        fun c hold => ho.pass h hrow (hat row hrow) hdue hold hpass.2 rfl rfl
      have hcount : chosen.length = Scheduler.BATCH_SIZE →
          (chosen ++ ids).length = Scheduler.BATCH_SIZE * true.toNat + ids.length := by
        intro hlen
        rw [List.length_append, hlen, Bool.toNat_true, Nat.mul_one]
      cases hs with
      | claimUnread _ oldest =>
        obtain ⟨ho', hlen⟩ := hfull .idle oldest
        exact ⟨_, ho', hcount hlen⟩
      | @claimed _ _ updated _ oldest =>
        obtain ⟨ho', hlen⟩ := hfull (if updated.isEmpty then .idle else .claimed updated) oldest
        exact ⟨_, ho', hcount hlen⟩
    · cases hpass

theorem Overtook.run {evs : List Event} {row : RequestRow}
    (hrun : Exec.run (Sys.step E) s evs = some t) (hfit : t.IdsFit) (h : s.Inv E)
    (ho : Overtook id row.scheduledAt s ids) (hrow : t.db.requests.get? id = some row) :
    ∃ ids', Overtook id row.scheduledAt t ids' ∧ ids'.length =
      Scheduler.BATCH_SIZE * Exec.worked (Sys.step E) (passesOver id) s evs + ids.length := by
  induction evs generalizing s ids with
  | nil =>
    obtain rfl := Exec.run_nil.1 hrun
    exact ⟨ids, ho, (Nat.zero_add _).symm⟩
  | cons e evs ih =>
    obtain ⟨u, hu, hr⟩ := Exec.run_cons.1 hrun
    have hufit : u.IdsFit := (grows_of_run hr).seq.trans hfit
    have hat : ∀ row', s.db.requests.get? id = some row' → row'.scheduledAt = row.scheduledAt := by
      intro row' hrow'
      obtain ⟨row'', hrow'', hat'⟩ := (grows_of_run hrun).rows id row' hrow'
      obtain rfl := Option.some.inj (hrow''.symm.trans hrow)
      exact hat'.symm
    obtain ⟨ids₁, ho₁, hlen₁⟩ := ho.event hu h hufit hat
    obtain ⟨ids₂, ho₂, hlen₂⟩ := ih hr (h.step (Sys.Step.of_step hu) hufit) ho₁
    refine ⟨ids₂, ho₂, ?_⟩
    rw [hlen₂, hlen₁, Exec.worked, hu, Option.elim_some, Nat.mul_add]
    omega

theorem Overtook.length_le (ho : Overtook id scheduledAt s ids) :
    ids.length ≤ (overtaking id scheduledAt s.db.requests).length := by
  have hsub : ∀ i ∈ ids, i ∈ (overtaking id scheduledAt s.db.requests).map Prod.fst := by
    intro i hi
    obtain ⟨hne, -, row, hrow, hat, hst⟩ := ho.rows i hi
    refine List.mem_map.2 ⟨(i, row), List.mem_filter.2 ⟨Table.get?_eq_some.1 hrow, ?_⟩, rfl⟩
    exact decide_eq_true ⟨hne, hat, hst⟩
  have hle := (List.subperm_of_subset ho.nodup hsub).length_le
  rwa [List.length_map] at hle

/-- Among any number of polls, and whatever fails in between, a row is passed over
only by as many as those that have overtaken it fill with their batches. -/
theorem passed_over {now₀ : Instant} {evs : List Event} {row : RequestRow}
    (hrun : Run E now₀ evs t) (hfit : t.IdsFit) (hrow : t.db.requests.get? id = some row) :
    Exec.worked (Sys.step E) (passesOver id) (Sys.init now₀) evs ≤
      (overtaking id row.scheduledAt t.db.requests).length / Scheduler.BATCH_SIZE := by
  have ho : Overtook id row.scheduledAt (Sys.init now₀) [] := ⟨List.nodup_nil, nofun⟩
  obtain ⟨ids, ho', hlen⟩ := Overtook.run hrun hfit (.init E now₀) ho hrow
  have hle := ho'.length_le
  rw [Nat.le_div_iff_mul_le (by decide), Nat.mul_comm]
  exact (Nat.le_add_right _ _).trans (hlen ▸ hle)

def nextYear : Instant := ⟨(Date.newYear 2031).midnight, by decide⟩

/-- Two mails for the same time, each picked by a poll of its own a year later. -/
def pollEvents : List Event :=
  [.request (sampleMail "a" (some "2030-01-01 09:00:00"))] ++ saving 0 ++
  [.tick nextYear, .spawnScheduler,
    .claimBatch 0 [1] true, .request (sampleMail "b" (some "2030-01-01 09:00:00"))] ++ saving 1 ++
  [.spawnScheduler, .claimBatch 1 [2] true]

theorem passed_over_sample : ∃ s, Run sampleEnv newYear pollEvents s ∧
    Exec.worked (Sys.step sampleEnv) (passesOver 2) (Sys.init newYear) pollEvents ≤ 0 := by
  obtain ⟨s, hs, h⟩ := Exec.exists_of_any (Sys.step sampleEnv) (Sys.init newYear) pollEvents
    (fun s => decide s.IdsFit && (s.db.requests.get? 2).any fun row =>
      (overtaking 2 row.scheduledAt s.db.requests).length = 1) (by decide)
  simp only [Bool.and_eq_true, decide_eq_true_eq, Option.any_eq_true] at h
  obtain ⟨hfit, row, hrow, hlen⟩ := h
  have hle := passed_over hs hfit hrow
  rw [hlen] at hle
  exact ⟨s, hs, hle⟩

end Ses
