import SesSender.Proofs.Narrowing

/-! What one call of the scheduler does to the due rows, and what the calls in a
row make of the backlog, as long as its ids fit the types they are read into. -/

namespace Ses

open Calendar

variable {env : BatchEnv} {db : Db} {res : BatchResult} {now : Instant}

/-- Each content id refers to an existing content. -/
def Db.Referenced (db : Db) : Prop :=
  ∀ id row, db.requests.get? id = some row → ∃ c, db.contents.get? row.contentId = some c

/-- The rowid and the content id are in the range of an `i32`. -/
def Db.Fits (db : Db) (id : Int) : Prop :=
  id ≤ i32Max ∧ ∀ row, db.requests.get? id = some row → row.contentId ≤ i32Max

/-- The request made for a row: its id, topic and address, and the subject and the
text of its content. -/
def Carries (db : Db) (id : Int) (req : EmailRequest) : Prop :=
  ∃ row c, db.requests.get? id = some row ∧ db.contents.get? row.contentId = some c ∧
    req.rowid = some id ∧ req.topicId = some row.topicId ∧ req.email = row.email ∧
    req.subject = c.subject ∧ req.content = c.content

/-- What one call owes the table. -/
structure BatchDone (env : BatchEnv) (db : Db) (res : BatchResult) : Prop where
  picked : env.chosen.Nodup ∧ ∀ id ∈ env.chosen, ∃ row, db.requests.get? id = some row ∧
    due env.now row = true
  count : env.chosen.length = min Scheduler.BATCH_SIZE (dueRows env.now db.requests).length
  oldest : ∀ id ∈ env.chosen, ∀ id' ∉ env.chosen, ∀ row row', db.requests.get? id = some row →
    db.requests.get? id' = some row' → due env.now row' = true →
    row.scheduledAt ≤ row'.scheduledAt
  claimed : ∀ id ∈ env.chosen, res.db.requests.get? id = (db.requests.get? id).map fun row =>
    { row with status := EmailMessageStatus.processed.asI32, updatedAt := env.now.stamp }
  others : ∀ id ∉ env.chosen, res.db.requests.get? id = db.requests.get? id
  tables : res.db.contents = db.contents ∧ res.db.results = db.results
  pushed : ∃ ids, ids.Perm env.chosen ∧ List.Forall₂ (Carries db) ids res.pushed
  result : res.result = .ok env.chosen.length

/-! ## One call -/

theorem Db.Referenced.decodes_iff (h : db.Referenced) {id : Int} {row : RequestRow}
    (hrow : db.requests.get? id = some row) :
    (∃ x, decodeI32 row.contentId = some x) ↔ row.contentId ≤ i32Max := by
  obtain ⟨c, hc⟩ := h id row hrow
  exact decodeI32_iff_fit (Table.pos_of_get? hc).le

theorem Db.Referenced.exists_row (h : db.Referenced) {id : Int} {row : RequestRow}
    (hrow : db.requests.get? id = some row) (hle : row.contentId ≤ i32Max) :
    ∃ r, db.scheduledRow id = some r ∧ r.id = id := by
  obtain ⟨c, hc⟩ := h id row hrow
  obtain ⟨x, hx⟩ := (h.decodes_iff hrow).2 hle
  exact ⟨_, Db.scheduledRow_eq_some.2 ⟨row, c, x, hrow, hc, hx, rfl⟩, rfl⟩

theorem carries_of_scheduledRow {id : Int} {r : ScheduledEmailRow} (h : db.scheduledRow id = some r)
    (hpos : 0 < id) (hle : id ≤ i32Max) : Carries db r.id r.toRequest := by
  obtain ⟨row, c, x, hrow, hc, -, rfl⟩ := Db.scheduledRow_eq_some.1 h
  refine ⟨row, c, hrow, hc, ?_, rfl, rfl, rfl, rfl⟩
  exact (rowid_eq_iff rfl hpos).2 hle

theorem carries_rowid {id : Int} {req : EmailRequest} (h : Carries db id req) : id ≤ i32Max := by
  obtain ⟨row, c, -, -, hid, -⟩ := h
  obtain ⟨x, -, rfl⟩ := Option.map_eq_some_iff.1 hid
  have := x.toInt_lt
  unfold i32Max
  omega

theorem get?_claimed (env : BatchEnv) (db : Db) (id : Int) :
    (env.claimed db).requests.get? id = (db.requests.get? id).map fun row =>
      if id ∈ env.chosen then
        { row with status := EmailMessageStatus.processed.asI32, updatedAt := env.now.stamp }
      else row :=
  get?_claim env.now env.chosen db.requests id

theorem OldestDue.oldest {t : Table RequestRow} {chosen : List Int} (hold : OldestDue now t chosen)
    {id id' : Int} (hid : id ∈ chosen) (hid' : id' ∉ chosen) {row row' : RequestRow}
    (hrow : t.get? id = some row) (hrow' : t.get? id' = some row') (hdue : Ses.due now row' = true) :
    row.scheduledAt ≤ row'.scheduledAt := by
  obtain ⟨r, hr, hst, hle⟩ := hold.due hid
  obtain rfl := Option.some.inj (hrow.symm.trans hr)
  have hdue₀ : Ses.due now row = true := decide_eq_true ⟨hst, hle⟩
  exact hold.2.2.2 (id, row) (mem_dueRows.2 ⟨hrow, hdue₀⟩) hid (id', row')
    (mem_dueRows.2 ⟨hrow', hdue⟩) hid'

/-- A call of a table whose picked rows fit does all that is asked of it. -/
theorem Db.Referenced.batchDone (h : db.Referenced) (henv : env.FailureFree)
    (hcall : fetchAndProcessBatch env db = some res) (hfit : ∀ id ∈ env.chosen, db.Fits id) :
    BatchDone env db res := by
  have hfetched := Fetched.of_call hcall
  have hdec : ∀ id ∈ env.chosen, ∀ row, db.requests.get? id = some row →
      ∃ x, decodeI32 row.contentId = some x :=
    fun id hid row hrow => (h.decodes_iff hrow).2 ((hfit id hid).2 row hrow)
  obtain ⟨n, hn⟩ := hfetched.exists_ok henv hdec
  have hdone : ∀ pushed, OldestDue env.now db.requests env.chosen →
      (∃ ids, ids.Perm env.chosen ∧ List.Forall₂ (Carries db) ids pushed) →
      BatchDone env db ⟨env.claimed db, pushed, .ok env.chosen.length⟩ := by
    intro pushed hold hpushed
    refine ⟨⟨hold.1, fun id hid => ?_⟩, hold.2.2.1, fun id hid id' hid' row row' hrow hrow' hdue =>
      hold.oldest hid hid' hrow hrow' hdue, fun id hid => ?_, fun id hid => ?_, ⟨rfl, rfl⟩,
      hpushed, rfl⟩
    · obtain ⟨row, hrow, hst, hle⟩ := hold.due hid
      exact ⟨row, hrow, decide_eq_true ⟨hst, hle⟩⟩
    · simp [get?_claimed, hid]
    · simp [get?_claimed, hid]
  cases hfetched with
  | idle oldest chosen =>
    have hempty := hdone [] oldest ⟨[], by rw [chosen], .nil⟩
    rwa [chosen, List.length_nil] at hempty
  | sent oldest chosen selected perm =>
    refine hdone _ oldest ⟨env.rows.map (·.id), ?_, ?_⟩
    · refine ((oldest.rows_perm selected perm).map _).trans (List.Perm.of_eq ?_)
      rw [List.map_filterMap]
      refine (List.filterMap_congr fun id hid => ?_).trans List.filterMap_some
      obtain ⟨row, hget, -⟩ := oldest.due hid
      obtain ⟨r, hr, hid'⟩ := h.exists_row hget ((hfit id hid).2 row hget)
      rw [hr, Option.map_some, hid']
    · rw [List.forall₂_map_left_iff, List.forall₂_map_right_iff, List.forall₂_same]
      intro r hr
      obtain ⟨id, hid, hrow⟩ := List.mem_filterMap.1 ((oldest.rows_perm selected perm).subset hr)
      obtain ⟨row, hget, -⟩ := oldest.due hid
      exact carries_of_scheduledRow hrow (Table.pos_of_get? hget) (hfit id hid).1
  | _ => cases hn

/-- A call that returns a count has read the content id of every row it picked. -/
theorem Db.Referenced.contentId_le (h : db.Referenced) (hf : Fetched env db res) {n : ℕ}
    (hn : res.result = .ok n) {id : Int} (hid : id ∈ env.chosen) {row : RequestRow}
    (hrow : db.requests.get? id = some row) : row.contentId ≤ i32Max := by
  cases hf with
  | idle oldest chosen =>
    rw [chosen] at hid
    cases hid
  | sent oldest chosen selected perm =>
    obtain ⟨c, hc⟩ := h id row hrow
    have hget := get?_claimed env db id
    rw [hrow, Option.map_some, if_pos hid] at hget
    obtain ⟨i, hi⟩ := List.mem_iff_getElem?.1 (mem_joined.2 ⟨hid, hget, hc⟩)
    obtain ⟨r, -, hr⟩ := Lists.forall₂_getElem?_left (Lists.mapM_eq_some.1 selected) hi
    obtain ⟨x, hx, -⟩ := Option.bind_eq_some_iff.1 hr
    exact (h.decodes_iff hrow).1 ⟨x, hx⟩
  | _ => cases hn

theorem BatchDone.fits (h : BatchDone env db res) (href : db.Referenced)
    (hcall : fetchAndProcessBatch env db = some res) : ∀ id ∈ env.chosen, db.Fits id := by
  intro id hid
  refine ⟨?_, ?_⟩
  · obtain ⟨ids, hperm, hall⟩ := h.pushed
    obtain ⟨i, hi⟩ := List.mem_iff_getElem?.1 (hperm.symm.subset hid)
    obtain ⟨req, -, hreq⟩ := Lists.forall₂_getElem?_left hall hi
    exact carries_rowid hreq
  · intro row hrow
    exact href.contentId_le (Fetched.of_call hcall) h.result hid hrow

/-! ## The calls in a row -/

def dueIds (now : Instant) (db : Db) : List Int := (dueRows now db.requests).map Prod.fst

theorem waiting_dueIds (now : Instant) (db : Db) :
    Waiting (· = now) db.requests (dueIds now db) := by
  refine ⟨nodup_dueRows now db.requests, fun id hid => ?_, fun now' hnow id row hrow => ?_⟩
  · obtain ⟨⟨id, row⟩, hr, rfl⟩ := List.mem_map.1 hid
    exact ⟨row, (mem_dueRows.1 hr).1⟩
  · subst hnow
    refine ⟨?_, ?_⟩
    · intro hdue
      exact List.mem_map.2 ⟨(id, row), mem_dueRows.2 ⟨hrow, hdue⟩, rfl⟩
    · intro hid
      obtain ⟨⟨id', row'⟩, hr, rfl⟩ := List.mem_map.1 hid
      obtain ⟨hrow', hdue⟩ := mem_dueRows.1 hr
      obtain rfl := Option.some.inj (hrow.symm.trans hrow')
      exact hdue

/-- What is picked now, and what is due after that. -/
theorem dueIds_claimed (hnow : env.now = now) (hold : OldestDue env.now db.requests env.chosen) :
    (env.chosen ++ dueIds now (env.claimed db)).Perm (dueIds now db) := by
  subst hnow
  have hw := waiting_dueIds env.now db
  refine List.Perm.trans (List.Perm.append_left _ ?_) (hw.split rfl hold)
  have hw' := hw.claim env.now env.chosen
  refine (List.perm_ext_iff_of_nodup (nodup_dueRows _ _) hw'.nodup).2 fun id => ?_
  exact hw'.mem_dueRows rfl id

theorem Db.Referenced.claimed (h : db.Referenced) (env : BatchEnv) : (env.claimed db).Referenced := by
  intro id row' hrow'
  obtain ⟨row, hrow, hc⟩ := claim_contentId hrow'
  rw [hc]
  exact h id row hrow

theorem Db.Fits.claimed {id : Int} (h : db.Fits id) (env : BatchEnv) :
    (env.claimed db).Fits id := by
  refine ⟨h.1, fun row' hrow' => ?_⟩
  obtain ⟨row, hrow, hc⟩ := claim_contentId hrow'
  rw [hc]
  exact h.2 row hrow

/-- The claim leaves what a request is made of. -/
theorem row_claimed (env : BatchEnv) {id : Int} {row' : RequestRow}
    (h : (env.claimed db).requests.get? id = some row') :
    ∃ row, db.requests.get? id = some row ∧ row'.topicId = row.topicId ∧
      row'.contentId = row.contentId ∧ row'.email = row.email := by
  rw [get?_claimed] at h
  obtain ⟨row, hrow, rfl⟩ := Option.map_eq_some_iff.1 h
  refine ⟨row, hrow, ?_⟩
  split <;> exact ⟨rfl, rfl, rfl⟩

theorem Carries.of_claimed {id : Int} {req : EmailRequest} (h : Carries (env.claimed db) id req) :
    Carries db id req := by
  obtain ⟨row', c, hrow', hc, hid, ht, he, hbody⟩ := h
  obtain ⟨row, hrow, htopic, hcontent, hemail⟩ := row_claimed env hrow'
  rw [hcontent] at hc
  exact ⟨row, c, hrow, hc, hid, ht.trans (congrArg some htopic), he.trans hemail, hbody⟩

/-- `n` divided by the batch size, rounded up. -/
def batchesFor (n : ℕ) : ℕ := (n + Scheduler.BATCH_SIZE - 1) / Scheduler.BATCH_SIZE

theorem batchesFor_pos {n : ℕ} : 0 < batchesFor n ↔ 0 < min Scheduler.BATCH_SIZE n := by
  unfold batchesFor Scheduler.BATCH_SIZE
  omega

theorem lt_batchesFor_rest {n i : ℕ} :
    i < batchesFor (n - min Scheduler.BATCH_SIZE n) ↔ i + 1 < batchesFor n := by
  unfold batchesFor Scheduler.BATCH_SIZE
  omega

/-- What the calls in a row owe the backlog. -/
structure Drained (now : Instant) (db : Db) (results : List BatchResult) (db' : Db) : Prop where
  counts : ∀ (i : ℕ) res, results[i]? = some res → ∃ n, res.result = .ok n ∧
    (0 < n ↔ i < batchesFor (dueIds now db).length)
  empty : dueIds now db' = []
  pushed : ∃ ids, ids.Perm (dueIds now db) ∧
    List.Forall₂ (Carries db) ids (results.flatMap (·.pushed))

theorem fetchRepeatedly_cons {envs : List BatchEnv} {results : List BatchResult} {db' : Db}
    (h : fetchRepeatedly (env :: envs) db = some (results, db')) :
    ∃ res rest, fetchAndProcessBatch env db = some res ∧
      fetchRepeatedly envs res.db = some (rest, db') ∧ results = res :: rest := by
  obtain ⟨res, hres, h⟩ := Option.bind_eq_some_iff.1 h
  obtain ⟨⟨rest, db₁⟩, hrest, heq⟩ := Option.map_eq_some_iff.1 h
  obtain ⟨rfl, rfl⟩ := by simpa using heq
  exact ⟨res, rest, hres, hrest, rfl⟩

/-- After any number of calls: the counts they have returned, how much is still due,
and that the rest has been pushed. -/
theorem fetchRepeatedly_spec {envs : List BatchEnv} {results : List BatchResult} {db' : Db}
    (henvs : ∀ env ∈ envs, env.now = now ∧ env.FailureFree) (href : db.Referenced)
    (hfit : ∀ id ∈ dueIds now db, db.Fits id)
    (h : fetchRepeatedly envs db = some (results, db')) :
    (∀ (i : ℕ) res, results[i]? = some res → ∃ n, res.result = .ok n ∧
      (0 < n ↔ i < batchesFor (dueIds now db).length)) ∧
    (dueIds now db').length = (dueIds now db).length - Scheduler.BATCH_SIZE * envs.length ∧
    ∃ ids, (ids ++ dueIds now db').Perm (dueIds now db) ∧
      List.Forall₂ (Carries db) ids (results.flatMap (·.pushed)) := by
  induction envs generalizing db results with
  | nil =>
    obtain ⟨rfl, rfl⟩ := by simpa [fetchRepeatedly] using h
    exact ⟨fun i res hres => by simp at hres, by simp, [], by simp, by simp⟩
  | cons env envs ih =>
    obtain ⟨hnow, henv⟩ := henvs env (by simp)
    obtain ⟨res, rest, hcall, hrest, rfl⟩ := fetchRepeatedly_cons h
    have hold : OldestDue env.now db.requests env.chosen := (Fetched.of_call hcall).oldest henv
    have hsplit := dueIds_claimed hnow hold
    have hdone := href.batchDone henv hcall fun id hid =>
      hfit id (hsplit.subset (List.mem_append_left _ hid))
    have hdb : res.db = env.claimed db := (fetchAndProcessBatch_spec hcall hdone.result).2.2.1
    rw [hdb] at hrest
    obtain ⟨hcounts, hlen, ids, hperm, hall⟩ := ih (fun env' hmem => henvs env' (by simp [hmem]))
      (href.claimed env) (fun id hid =>
        (hfit id (hsplit.subset (List.mem_append_right _ hid))).claimed env) hrest
    have hdue : (dueRows env.now db.requests).length = (dueIds now db).length := by
      rw [dueIds, List.length_map, hnow]
    have hcount := hdone.count
    rw [hdue] at hcount
    have hrestlen : (dueIds now (env.claimed db)).length =
        (dueIds now db).length - min Scheduler.BATCH_SIZE (dueIds now db).length := by
      have := hsplit.length_eq
      rw [List.length_append] at this
      omega
    refine ⟨fun i res' hres' => ?_, ?_, ?_⟩
    · cases i with
      | zero =>
        obtain rfl : res = res' := by simpa using hres'
        exact ⟨_, hdone.result, by rw [hcount, batchesFor_pos]⟩
      | succ i =>
        obtain ⟨n, hn, hiff⟩ := hcounts i res' (by simpa using hres')
        exact ⟨n, hn, by rw [hiff, hrestlen, lt_batchesFor_rest]⟩
    · rw [hlen, hrestlen, List.length_cons]
      unfold Scheduler.BATCH_SIZE
      omega
    · obtain ⟨ids₀, hperm₀, hall₀⟩ := hdone.pushed
      refine ⟨ids₀ ++ ids, ?_, ?_⟩
      · rw [List.append_assoc]
        exact (hperm₀.append hperm).trans hsplit
      · rw [List.flatMap_cons]
        exact List.rel_append hall₀ (hall.imp fun _ _ hc => hc.of_claimed)

/-- When every call returns a count, what was due and is no longer has been read. -/
theorem contentId_le_of_ok {envs : List BatchEnv} {results : List BatchResult} {db' : Db}
    (henvs : ∀ env ∈ envs, env.now = now ∧ env.FailureFree) (href : db.Referenced)
    (h : fetchRepeatedly envs db = some (results, db'))
    (hok : ∀ res ∈ results, ∃ n, res.result = .ok n) {id : Int} (hid : id ∈ dueIds now db)
    {row : RequestRow} (hrow : db.requests.get? id = some row) :
    row.contentId ≤ i32Max ∨ id ∈ dueIds now db' := by
  induction envs generalizing db results row with
  | nil =>
    obtain ⟨rfl, rfl⟩ := by simpa [fetchRepeatedly] using h
    exact Or.inr hid
  | cons env envs ih =>
    obtain ⟨hnow, henv⟩ := henvs env (by simp)
    obtain ⟨res, rest, hcall, hrest, rfl⟩ := fetchRepeatedly_cons h
    obtain ⟨n, hn⟩ := hok res (by simp)
    have hsplit := dueIds_claimed hnow ((Fetched.of_call hcall).oldest henv)
    rcases List.mem_append.1 (hsplit.symm.subset hid) with hchosen | hlater
    · exact Or.inl (href.contentId_le (Fetched.of_call hcall) hn hchosen hrow)
    · have hdb : res.db = env.claimed db := (fetchAndProcessBatch_spec hcall hn).2.2.1
      rw [hdb] at hrest
      obtain ⟨row', hrow'⟩ := (waiting_dueIds now (env.claimed db)).rows id hlater
      obtain ⟨row₁, hrow₁, -, hc, -⟩ := row_claimed env hrow'
      obtain rfl := Option.some.inj (hrow.symm.trans hrow₁)
      rw [← hc]
      exact ih (fun env' hmem => henvs env' (by simp [hmem])) (href.claimed env) hrest
        (fun res' hmem => hok res' (by simp [hmem])) hlater hrow'

theorem Db.Referenced.drained {envs : List BatchEnv} {results : List BatchResult} {db' : Db}
    (href : db.Referenced) (henvs : ∀ env ∈ envs, env.now = now ∧ env.FailureFree)
    (hlen : batchesFor (dueIds now db).length ≤ envs.length)
    (h : fetchRepeatedly envs db = some (results, db'))
    (hfit : ∀ id ∈ dueIds now db, db.Fits id) : Drained now db results db' := by
  obtain ⟨hcounts, hleft, ids, hperm, hall⟩ := fetchRepeatedly_spec henvs href hfit h
  have hempty : dueIds now db' = [] := by
    rw [← List.length_eq_zero_iff, hleft]
    unfold batchesFor Scheduler.BATCH_SIZE at *
    omega
  rw [hempty, List.append_nil] at hperm
  exact ⟨hcounts, hempty, ids, hperm, hall⟩

theorem Drained.fits {envs : List BatchEnv} {results : List BatchResult} {db' : Db}
    (hd : Drained now db results db') (href : db.Referenced)
    (henvs : ∀ env ∈ envs, env.now = now ∧ env.FailureFree)
    (h : fetchRepeatedly envs db = some (results, db')) : ∀ id ∈ dueIds now db, db.Fits id := by
  intro id hid
  refine ⟨?_, ?_⟩
  · obtain ⟨ids, hperm, hall⟩ := hd.pushed
    obtain ⟨i, hi⟩ := List.mem_iff_getElem?.1 (hperm.symm.subset hid)
    obtain ⟨req, -, hreq⟩ := Lists.forall₂_getElem?_left hall hi
    exact carries_rowid hreq
  · intro row hrow
    have hok : ∀ res ∈ results, ∃ n, res.result = .ok n := by
      intro res hres
      obtain ⟨i, hi⟩ := List.mem_iff_getElem?.1 hres
      obtain ⟨n, hn, -⟩ := hd.counts i res hi
      exact ⟨n, hn⟩
    rcases contentId_le_of_ok henvs href h hok hid hrow with hle | hdue
    · exact hle
    · rw [hd.empty] at hdue
      cases hdue

/-- There are calls to make, any number of them. -/
theorem exists_fetchRepeatedly (now : Instant) (n : ℕ) (db : Db) :
    ∃ envs r, envs.length = n ∧ (∀ env ∈ envs, env.now = now ∧ env.FailureFree) ∧
      fetchRepeatedly envs db = some r := by
  induction n generalizing db with
  | zero => exact ⟨[], _, rfl, by simp, rfl⟩
  | succ n ih =>
    obtain ⟨chosen, hold⟩ := exists_oldestDue now db.requests
    obtain ⟨env, res, hnow, -, henv, hcall⟩ := exists_call hold
    obtain ⟨envs, r, hlen, henvs, hrest⟩ := ih res.db
    refine ⟨env :: envs, (res :: r.1, r.2), by rw [List.length_cons, hlen], ?_, ?_⟩
    · intro env' hmem
      rcases List.mem_cons.1 hmem with rfl | hmem
      · exact ⟨hnow, henv⟩
      · exact henvs env' hmem
    · rw [fetchRepeatedly, hcall, Option.bind_some, hrest, Option.map_some]

/-- While nothing fails, a call does all it owes exactly when the ids it reads of the
rows it picks fit an `i32`, and the calls in a row drain the backlog exactly when
those of all due rows do. -/
theorem backlog_drained_iff (href : db.Referenced) :
    (∀ env res, env.FailureFree → fetchAndProcessBatch env db = some res →
      (BatchDone env db res ↔ ∀ id ∈ env.chosen, db.Fits id)) ∧
    (∀ now envs results db', (∀ env ∈ envs, env.now = now ∧ env.FailureFree) →
      batchesFor (dueIds now db).length ≤ envs.length →
      fetchRepeatedly envs db = some (results, db') →
      (Drained now db results db' ↔ ∀ id ∈ dueIds now db, db.Fits id)) ∧
    ∀ now n, ∃ envs r, envs.length = n ∧ (∀ env ∈ envs, env.now = now ∧ env.FailureFree) ∧
      fetchRepeatedly envs db = some r :=
  ⟨fun _ _ henv hcall => ⟨fun hdone => hdone.fits href hcall, href.batchDone henv hcall⟩,
    fun _ _ _ _ henvs hlen h => ⟨fun hd => hd.fits href henvs h, href.drained henvs hlen h⟩,
    fun now n => exists_fetchRepeatedly now n db⟩

/-- A decided form of `Referenced`, by the rows. -/
theorem referenced_of_rows
    (h : ∀ r ∈ db.requests.rows, (db.contents.get? r.2.contentId).isSome = true) :
    db.Referenced :=
  fun _ _ hrow => Option.isSome_iff_exists.1 (h _ (Table.get?_eq_some.1 hrow))

/-- Four due rows, two of them scheduled for one time and three with one content; a
fifth is not due and a sixth was stopped. -/
def backlogDb : Db where
  contents := Table.empty.append [⟨"Hello", "<p>Hi</p>", ""⟩, ⟨"News", "<p>News</p>", ""⟩]
  requests := Table.empty.append
    [⟨"a", 1, none, "one@example.com", "2029-06-01 00:00:00", 0, none, "", ""⟩,
      ⟨"a", 1, none, "two@example.com", "2029-06-01 00:00:00", 0, none, "", ""⟩,
      ⟨"b", 2, none, "three@example.com", "2029-01-01 00:00:00", 0, none, "", ""⟩,
      ⟨"b", 1, none, "four@example.com", newYear.stamp, 0, none, "", ""⟩,
      ⟨"b", 2, none, "five@example.com", "2031-01-01 00:00:00", 0, none, "", ""⟩,
      ⟨"a", 2, none, "six@example.com", "2029-01-01 00:00:00", 4, none, "", ""⟩]
  results := Table.empty

/-- The rows of one time are picked the later one first; the join answers in an order of its own. -/
def backlogBatches : List BatchEnv :=
  [⟨newYear, [3, 2, 1, 4], [⟨4, "b", 1, "four@example.com", "Hello", "<p>Hi</p>"⟩,
      ⟨1, "a", 1, "one@example.com", "Hello", "<p>Hi</p>"⟩,
      ⟨2, "a", 1, "two@example.com", "Hello", "<p>Hi</p>"⟩,
      ⟨3, "b", 2, "three@example.com", "News", "<p>News</p>"⟩], false, false, none⟩,
    ⟨newYear, [], [], false, false, none⟩]

theorem backlog_drained_iff_sample : ∃ results db',
    fetchRepeatedly backlogBatches backlogDb = some (results, db') ∧
    results.map (fun res => res.pushed.map (·.rowid)) =
      [[some 4, some 1, some 2, some 3], []] ∧
    Drained newYear backlogDb results db' := by
  have href : backlogDb.Referenced := referenced_of_rows (by decide)
  have hfit : ∀ id ∈ dueIds newYear backlogDb, backlogDb.Fits id := by
    have hids : ∀ id ∈ dueIds newYear backlogDb, id ≤ i32Max := by decide
    have hcontents : ∀ r ∈ backlogDb.requests.rows, r.2.contentId ≤ i32Max := by decide
    exact fun id hid => ⟨hids id hid, fun row hrow => hcontents _ (Table.get?_eq_some.1 hrow)⟩
  have hcalls : ((fetchRepeatedly backlogBatches backlogDb).any fun r =>
      r.1.map (fun res => res.pushed.map (·.rowid)) =
        [[some 4, some 1, some 2, some 3], []]) = true := by decide
  obtain ⟨⟨results, db'⟩, h, hpushed⟩ := (Option.any_eq_true _ _).1 hcalls
  have henvs : ∀ env ∈ backlogBatches, env.now = newYear ∧ env.FailureFree := by
    intro env henv
    simp only [backlogBatches, List.mem_cons, List.not_mem_nil, or_false] at henv
    rcases henv with rfl | rfl
    · exact ⟨rfl, rfl, rfl, rfl⟩
    · exact ⟨rfl, rfl, rfl, rfl⟩
  exact ⟨results, db', h, of_decide_eq_true hpushed,
    ((backlog_drained_iff href).2.1 newYear backlogBatches results db' henvs (by decide) h).2 hfit⟩

/-- The request pushed for row 2³² + 1 does not carry its id. -/
theorem not_batchDone_wide : ¬ ∀ env db res, db.Referenced → env.FailureFree →
    fetchAndProcessBatch env db = some res → BatchDone env db res := by
  intro hall
  have href : wideDb.Referenced := referenced_of_rows (by decide)
  have hcall : (fetchAndProcessBatch wideBatch wideDb).isSome = true := by decide
  obtain ⟨res, hres⟩ := Option.isSome_iff_exists.1 hcall
  have hdone := hall wideBatch wideDb res href ⟨rfl, rfl, rfl⟩ hres
  have hfit := hdone.fits href hres 4294967297 (by decide)
  exact absurd hfit.1 (by decide)

end Ses
