import SesSender.Proofs.Binding
import SesSender.Proofs.InsertText
import SesSender.Proofs.Pickup
import SesSender.Proofs.QueryText
import SesSender.Proofs.Stranding

/-! What SQLite may do with each text is what the model does. -/

namespace Ses

open Calendar Sql

variable {db : Db} {now : Instant} {t : Table RequestRow} {rows : List (List SqlValue)}

/-! ## Updates -/

section Change

variable {c : Change} {binds : List SqlValue} {sql : String}

/-- An `UPDATE` that returns nothing has one outcome. -/
theorem updates_iff {conditions : List Condition} {p : Int → RequestRow → Bool}
    {f : Int → RequestRow → RequestRow} (hparse : parseChange sql = some c)
    (htable : c.table = "email_requests")
    (hsets : (c.sets.all fun a => a.2.known [(c.table, requestColumns)]) = true)
    (hfilter : c.filter = .all conditions)
    (hknown : conditions.all (·.known [(c.table, requestColumns)]) = true) (hret : c.returning = [])
    (hp : ∀ id row, holdsAll (sqlValues now) (boundTo binds) [(c.table, requestColumns)]
      [RequestRow.column id row] conditions = p id row)
    (hf : ∀ id row, changeRow c binds now id row = some (f id row)) :
    db.Updates now sql binds t rows ↔ t = db.requests.update p f ∧ rows = [] := by
  have hpicked : (fun (id : Int) (row : RequestRow) => holdsAll (sqlValues now) (boundTo binds)
      [(c.table, requestColumns)] [row.column id] conditions) = p :=
    funext fun id => funext fun row => hp id row
  have hrow : (fun (id : Int) (row : RequestRow) =>
      (changeRow c binds now id row).getD row) = f := by
    funext id row
    rw [hf, Option.getD_some]
  refine ⟨?_, ?_⟩
  · rintro ⟨c', hc', -, -, -, picked, hpick, -, ht, hrows⟩
    obtain rfl : c = c' := Option.some.inj (hparse.symm.trans hc')
    rw [hret, List.isEmpty_nil, if_pos rfl] at hrows
    rw [hfilter] at hpick
    obtain ⟨-, rfl⟩ := hpick
    rw [hrow, hpicked] at ht
    exact ⟨ht, hrows⟩
  · rintro ⟨rfl, rfl⟩
    refine ⟨c, hparse, htable, hsets, by rw [hret]; rfl, fun row => holdsAll (sqlValues now)
      (boundTo binds) [(c.table, requestColumns)] [row] conditions, ?_, ?_, ?_, ?_⟩
    · rw [hfilter]
      exact ⟨hknown, rfl⟩
    · intro r _ _
      rw [hf]
      rfl
    · rw [hrow, hpicked]
    · rw [hret, List.isEmpty_nil, if_pos rfl]

/-- What `SET status = ?, updated_at = datetime('now')` writes. -/
theorem changeRow_status (hsets : c.sets = statusSets) {status : Int}
    (hbind : boundTo binds 0 = .int status) (id : Int) (row : RequestRow) :
    changeRow c binds now id row = some { row with status, updatedAt := now.stamp } := by
  have hvalue : requestValue c binds now (row.column id) (.param 0) = some (.int status) := by
    rw [requestValue, Operand.eval, hbind]
  rw [changeRow, hsets]
  simp only [statusSets, List.foldlM_cons, List.foldlM_nil, hvalue, Option.bind_some]
  rfl

end Change

theorem SqlValue.eq_ofInt32 (id : Int) (x : Option Int32) :
    SqlValue.eq (.int id) (.ofInt32 x) = decide (x.map Int32.toInt = some id) := by
  cases x with
  | none => rfl
  | some x =>
    rw [SqlValue.ofInt32, SqlValue.eq, Option.map_some]
    exact decide_eq_decide.2 (by rw [Option.some.injEq, eq_comm])

theorem EmailRequest.updates_update (req : EmailRequest) :
    db.Updates now EmailRequest.updateSql req.updateBinds t rows ↔
      t = req.update now db.requests ∧ rows = [] := by
  refine updates_iff EmailRequest.parse_updateSql rfl (by decide) rfl (by decide) rfl
    (fun id row => ?_) fun id row => ?_
  · exact (Bool.and_true _).trans (SqlValue.eq_ofInt32 id req.id)
  · have hrow : changeRow EmailRequest.updateStatement req.updateBinds now id row =
        some { row with
          status := req.status
          messageId := (SqlValue.ofText req.messageId).toText
          error := (SqlValue.ofText req.error).toText
          updatedAt := now.stamp } := rfl
    rw [hrow, toText_ofText, toText_ofText]

theorem updates_stopTopic (topicId : String) :
    db.Updates now EmailRequest.stopTopicSql (EmailRequest.stopTopicBinds topicId) t rows ↔
      t = EmailRequest.stopTopic now topicId db.requests ∧ rows = [] := by
  refine updates_iff EmailRequest.parse_stopTopicSql rfl (by decide) rfl (by decide) rfl
    (fun id row => ?_) (changeRow_status rfl rfl)
  have hboth : holdsAll (sqlValues now) (boundTo (EmailRequest.stopTopicBinds topicId))
      [("email_requests", requestColumns)] [row.column id]
      [.compare (.column "" "status") .eq (.param 1),
        .compare (.column "" "topic_id") .eq (.param 2)] =
      (decide (row.status = EmailMessageStatus.created.asI32) &&
        (decide (row.topicId = topicId) && true)) := rfl
  refine hboth.trans ?_
  rw [Bool.and_true, Bool.decide_and]

theorem boundTo_range' (before values : List SqlValue) :
    (List.range' before.length values.length).map (boundTo (before ++ values)) = values := by
  refine List.ext_getElem (by simp) fun i h₁ h₂ => ?_
  rw [List.getElem_map, List.getElem_range', Nat.one_mul, boundTo, getD_binds,
    List.getD_eq_getElem?_getD, List.getElem?_eq_getElem h₂, Option.getD_some]

/-- `IN (?, …)` holds of the ids bound to it. -/
theorem any_boundTo (before : List SqlValue) (ids : List Int) (id : Int) :
    ((List.range' before.length ids.length).any fun k =>
      SqlValue.eq (.int id) (boundTo (before ++ ids.map .int) k)) = decide (id ∈ ids) := by
  have hbound := boundTo_range' before (ids.map .int)
  rw [List.length_map] at hbound
  calc ((List.range' before.length ids.length).any fun k =>
        SqlValue.eq (.int id) (boundTo (before ++ ids.map .int) k))
      = (ids.map SqlValue.int).any (SqlValue.eq (.int id)) := by
        rw [← hbound, List.any_map, hbound]
        rfl
    _ = ids.any fun x => decide (id = x) := by
      rw [List.any_map]
      rfl
    _ = decide (id ∈ ids) := by
      rw [Bool.eq_iff_iff, List.any_eq_true, decide_eq_true_eq]
      simp

theorem updates_rollback {ids : List Int32} (hids : ids ≠ []) :
    db.Updates now (rollbackSql ids.length) (rollbackBinds ids) t rows ↔
      t = rollbackToCreated now ids db.requests ∧ rows = [] := by
  have hlen : ids.length ≠ 0 := fun h => hids (List.length_eq_zero_iff.1 h)
  have hroll : rollbackToCreated now ids db.requests = db.requests.update
      (fun id _ => decide (id ∈ ids.map Int32.toInt)) fun _ row =>
        { row with status := EmailMessageStatus.created.asI32, updatedAt := now.stamp } :=
    if_neg (by simpa using hids)
  rw [hroll]
  refine updates_iff (parse_rollbackSql hlen) rfl rfl rfl rfl rfl (fun id row => ?_)
    (changeRow_status rfl rfl)
  have hany := any_boundTo [.int EmailMessageStatus.created.asI32] (ids.map Int32.toInt) id
  rw [List.length_map, List.map_map] at hany
  exact (Bool.and_true _).trans hany

/-! ## Selects -/

theorem selects_iff {q : Select} {sql : String} {binds : List SqlValue}
    (hparse : parseSelect sql = some q) :
    db.Selects now sql binds rows ↔ q.Yields (sqlValues now) (boundTo binds) db.relation rows := by
  refine ⟨?_, fun h => ⟨q, hparse, h⟩⟩
  rintro ⟨q', hq', h⟩
  obtain rfl : q = q' := Option.some.inj (hparse.symm.trans hq')
  exact h

/-- The rows of `email_requests` as a product of one source. -/
def requestProduct (t : Table RequestRow) : Product SqlValue :=
  ⟨[("email_requests", requestColumns)], t.rows.map fun r => [r.2.column r.1]⟩

/-- A `SELECT` of `email_requests` alone. -/
theorem product_requests {q : Select} (hsource : q.source = ⟨"email_requests", "email_requests"⟩)
    (hjoin : q.join = none) (db : Db) :
    q.product db.relation = some (requestProduct db.requests) := by
  have htable : db.relation q.source.table =
      some ⟨requestColumns, db.requests.rows.map fun r => r.2.column r.1⟩ := by
    rw [hsource]
    rfl
  rw [q.product_single db.relation hjoin htable, hsource, List.map_map]
  rfl

/-- The rows of `email_requests` that pass. -/
theorem filter_requestProduct {binds : List SqlValue} {conditions : List Condition}
    {p : Int → RequestRow → Bool}
    (hp : ∀ id row, holdsAll (sqlValues now) (boundTo binds) [("email_requests", requestColumns)]
      [RequestRow.column id row] conditions = p id row) (t : Table RequestRow) :
    (requestProduct t).rows.filter (fun row => holdsAll (sqlValues now) (boundTo binds)
      (requestProduct t).names row conditions) =
        (t.rows.filter fun r => p r.1 r.2).map fun r => [r.2.column r.1] := by
  rw [requestProduct, List.filter_map]
  congr 1
  exact List.filter_congr fun r _ => hp r.1 r.2

/-! ## Phase 1 -/

theorem holdsAll_due (row : RequestRow) (id : Int) :
    holdsAll (sqlValues now) (boundTo claimBinds) [("email_requests", requestColumns)]
      [row.column id] dueSelect.conditions = due now row := by
  have hboth : holdsAll (sqlValues now) (boundTo claimBinds) [("email_requests", requestColumns)]
      [row.column id] dueSelect.conditions =
      (decide (row.status = EmailMessageStatus.created.asI32) &&
        (decide (row.scheduledAt ≤ now.stamp) && true)) := rfl
  rw [hboth, Bool.and_true, due, Bool.decide_and]

theorem groups_dueSelect (t : Table RequestRow) :
    dueSelect.groups (sqlValues now) (boundTo claimBinds) (requestProduct t) =
      (dueRows now t).map fun r => [[r.2.column r.1]] :=
  Select.groups_rows rfl rfl (filter_requestProduct (fun id row => holdsAll_due row id) t)

/-- How `ORDER BY scheduled_at ASC LIMIT 1000` may cut the rows that are due in two. -/
structure DueCut (now : Instant) (t : Table RequestRow) (kept rest : List (Int × RequestRow)) :
    Prop where
  perm : (kept ++ rest).Perm (dueRows now t)
  length : kept.length = min Scheduler.BATCH_SIZE (dueRows now t).length
  sorted : kept.Pairwise fun r r' => r.2.scheduledAt ≤ r'.2.scheduledAt
  cross : ∀ r ∈ kept, ∀ r' ∈ rest, r.2.scheduledAt ≤ r'.2.scheduledAt

/-- What the inner `SELECT` may yield: the ids of rows that are due, the oldest first. -/
theorem dueSelect_yields {result : List (List SqlValue)} :
    dueSelect.Yields (sqlValues now) (boundTo claimBinds) db.relation result ↔
      ∃ kept rest, DueCut now db.requests kept rest ∧ result = kept.map fun r => [.int r.1] := by
  have hbefore : ∀ r r' : Int × RequestRow, dueSelect.before (sqlValues now) (boundTo claimBinds)
      (requestProduct db.requests) [[r.2.column r.1]] [[r'.2.column r'.1]] = true ↔
      r.2.scheduledAt ≤ r'.2.scheduledAt := fun r r' =>
    (iff_of_eq (congrArg (· = true) rfl)).trans decide_eq_true_iff
  have hkept : ∀ n, dueSelect.kept (sqlValues now) (boundTo claimBinds) n =
      min Scheduler.BATCH_SIZE n := fun _ => rfl
  have hout : ∀ r ∈ dueRows now db.requests, dueSelect.output (sqlValues now) (boundTo claimBinds)
      (requestProduct db.requests) [[r.2.column r.1]] = some [.int r.1] := fun _ _ => rfl
  rw [dueSelect.yields_iff (sqlValues now) (boundTo claimBinds) db.relation
    (product_requests rfl rfl db) rfl (groups_dueSelect db.requests) hout]
  simp only [hbefore, hkept]
  refine exists_congr fun kept => exists_congr fun rest => ⟨?_, ?_⟩
  · rintro ⟨hperm, hlen, hsorted, hcross, hresult⟩
    exact ⟨⟨hperm, hlen, hsorted, hcross⟩, hresult⟩
  · rintro ⟨⟨hperm, hlen, hsorted, hcross⟩, hresult⟩
    exact ⟨hperm, hlen, hsorted, hcross, hresult⟩

theorem DueCut.oldestDue {kept rest : List (Int × RequestRow)} (h : DueCut now t kept rest) :
    OldestDue now t (kept.map Prod.fst) := by
  obtain ⟨hperm, hlen, -, hcross⟩ := h
  have hn := ((hperm.map Prod.fst).nodup_iff).2 (nodup_dueRows now t)
  have hdue : ∀ r ∈ kept ++ rest, r ∈ t.rows := fun r hr => List.mem_of_mem_filter (hperm.subset hr)
  rw [List.map_append] at hn
  refine ⟨(List.nodup_append.1 hn).1, fun id hid => ?_, by rw [List.length_map, hlen], ?_⟩
  · obtain ⟨r, hr, rfl⟩ := List.mem_map.1 hid
    exact List.mem_map_of_mem (hperm.subset (List.mem_append_left rest hr))
  · intro r hr hchosen r' hr' hnot
    obtain ⟨k, hk, hid⟩ := List.mem_map.1 hchosen
    obtain rfl := List.inj_on_of_nodup_map t.nodup (hdue k (List.mem_append_left rest hk))
      (List.mem_of_mem_filter hr) hid
    rcases List.mem_append.1 (hperm.symm.subset hr') with hkept | hrest
    · exact absurd (List.mem_map_of_mem hkept) hnot
    · exact hcross k hk r' hrest

theorem OldestDue.perm {chosen chosen' : List Int} (h : OldestDue now t chosen)
    (hperm : chosen'.Perm chosen) : OldestDue now t chosen' := by
  obtain ⟨hn, hdue, hlen, holdest⟩ := h
  refine ⟨hperm.nodup_iff.2 hn, fun id hid => hdue id (hperm.subset hid), ?_, ?_⟩
  · rw [hperm.length_eq, hlen]
  · intro r hr hin r' hr' hout
    exact holdest r hr (hperm.subset hin) r' hr' fun hin' => hout (hperm.symm.subset hin')

/-- The rows of the table that are picked. -/
theorem OldestDue.perm_rows {chosen : List Int} (h : OldestDue now t chosen) :
    ((t.rows.filter fun r => r.1 ∈ chosen).map Prod.fst).Perm chosen :=
  Lists.perm_filter_mem t.nodup h.1 fun id hid => (List.filter_sublist.map _).subset (h.2.1 id hid)

theorem OldestDue.dueCut {chosen : List Int} (h : OldestDue now t chosen) :
    ∃ kept rest, DueCut now t kept rest ∧ (kept.map Prod.fst).Perm chosen := by
  obtain ⟨hn, hdue, hlen, holdest⟩ := h
  let picked := (dueRows now t).filter fun r => r.1 ∈ chosen
  let le (r r' : Int × RequestRow) : Bool := r.2.scheduledAt ≤ r'.2.scheduledAt
  have hsort : (picked.mergeSort le).Perm picked := List.mergeSort_perm picked le
  have hids : (picked.map Prod.fst).Perm chosen :=
    Lists.perm_filter_mem (nodup_dueRows now t) hn hdue
  refine ⟨picked.mergeSort le, (dueRows now t).filter fun r => !(decide (r.1 ∈ chosen)),
    ⟨?_, ?_, ?_, ?_⟩, (hsort.map _).trans hids⟩
  · exact (hsort.append_right _).trans (List.filter_append_perm _ _)
  · rw [hsort.length_eq, ← hlen, ← hids.length_eq, List.length_map]
  · have hpair : (picked.mergeSort le).Pairwise fun a b => le a b = true := by
      apply List.pairwise_mergeSort
      · intro a b c hab hbc
        exact decide_eq_true (le_trans (of_decide_eq_true hab) (of_decide_eq_true hbc))
      · intro a b
        simpa [le] using le_total a.2.scheduledAt b.2.scheduledAt
    exact hpair.imp fun h => of_decide_eq_true h
  · intro r hr r' hr'
    obtain ⟨hr, hin⟩ := List.mem_filter.1 (hsort.subset hr)
    obtain ⟨hr', hout⟩ := List.mem_filter.1 hr'
    exact holdest r hr (of_decide_eq_true hin) r' hr' (by simpa using hout)

/-- What `RETURNING` gives for a row. -/
def returnedValues (r : Int × RequestRow) : List SqlValue :=
  [.int r.1, .text r.2.topicId, .int r.2.contentId, .text r.2.email]

theorem any_kept (kept : List (Int × RequestRow)) (id : Int) :
    ((kept.map fun r => [SqlValue.int r.1]).any fun r => r.head?.any fun y =>
      SqlValue.eq (.int id) y) = decide (id ∈ kept.map Prod.fst) := by
  rw [List.any_map, Bool.eq_iff_iff, List.any_eq_true, decide_eq_true_eq, List.mem_map]
  simp only [Function.comp_apply, List.head?_cons, Option.any_some, SqlValue.eq, decide_eq_true_eq]
  exact exists_congr fun r => and_congr_right fun _ => eq_comm

theorem claim_congr {ids ids' : List Int} (h : ∀ id, id ∈ ids ↔ id ∈ ids') :
    claim now ids t = claim now ids' t := by
  unfold claim
  congr 1
  funext id _
  exact decide_eq_decide.2 (h id)

theorem changeRow_claim (id : Int) (row : RequestRow) :
    changeRow claimStatement claimBinds now id row =
      some { row with status := EmailMessageStatus.processed.asI32, updatedAt := now.stamp } :=
  changeRow_status rfl rfl id row

theorem returnedRows_claim (rs : List (Int × RequestRow)) :
    rs.mapM (returnedRow claimStatement claimBinds now) = some (rs.map returnedValues) := by
  have hreturned : ∀ r, returnedRow claimStatement claimBinds now r = some (returnedValues r) :=
    fun _ => rfl
  exact Lists.mapM_of_forall fun r _ => hreturned r

/-- The rows phase 1 may pick are the oldest that are due. -/
theorem picks_claim {picked : (String → SqlValue) → Bool}
    (h : claimStatement.filter.Picks (sqlValues now) (boundTo claimBinds) db.relation requestColumns
      claimStatement.table picked) :
    ∃ ids, OldestDue now db.requests ids ∧
      ∀ id row, picked (RequestRow.column id row) = decide (id ∈ ids) := by
  obtain ⟨-, result, hyields, rfl⟩ := h
  obtain ⟨kept, rest, hcut, rfl⟩ := dueSelect_yields.1 hyields
  exact ⟨kept.map Prod.fst, hcut.oldestDue, fun id _ => any_kept kept id⟩

theorem exists_picks_claim {ids : List Int} (h : OldestDue now db.requests ids) :
    ∃ picked, claimStatement.filter.Picks (sqlValues now) (boundTo claimBinds) db.relation
        requestColumns claimStatement.table picked ∧
      ∀ id row, picked (RequestRow.column id row) = decide (id ∈ ids) := by
  obtain ⟨kept, rest, hcut, hids⟩ := h.dueCut
  have hyields := dueSelect_yields.2 ⟨kept, rest, hcut, rfl⟩
  refine ⟨_, ⟨rfl, _, hyields, rfl⟩, fun id _ => (any_kept kept id).trans ?_⟩
  exact decide_eq_decide.2 hids.mem_iff

theorem updates_claim_rows : db.Updates now claimSql claimBinds t rows ↔
    ∃ ids, OldestDue now db.requests ids ∧ t = claim now ids db.requests ∧
      rows.Perm ((db.requests.rows.filter fun r => r.1 ∈ ids).map returnedValues) := by
  refine ⟨?_, ?_⟩
  · rintro ⟨c, hc, -, -, -, picked, hpick, -, rfl, hrows⟩
    obtain rfl : claimStatement = c := Option.some.inj (parse_claimSql.symm.trans hc)
    obtain ⟨ids, hold, hpicked⟩ := picks_claim hpick
    obtain ⟨returned, hreturned, hperm⟩ := hrows
    simp only [hpicked, returnedRows_claim, Option.some.injEq] at hreturned
    refine ⟨ids, hold, ?_, hreturned ▸ hperm⟩
    simp only [hpicked, changeRow_claim, Option.getD_some]
    rfl
  · rintro ⟨ids, hold, rfl, hperm⟩
    obtain ⟨picked, hpick, hpicked⟩ := exists_picks_claim hold
    refine ⟨claimStatement, parse_claimSql, rfl, rfl, rfl, picked, hpick, ?_, ?_, _, ?_, hperm⟩
    · intro r _ _
      rw [changeRow_claim]
      rfl
    · simp only [hpicked, changeRow_claim, Option.getD_some]
      rfl
    · simp only [hpicked, returnedRows_claim]

/-- What is decoded from the returned rows is what `returning` reads. -/
theorem mapM_decode_returned {ids : List Int} {zs : List (Int × RequestRow)}
    (hzs : ∀ z ∈ zs, z ∈ db.requests.rows) :
    (zs.map returnedValues).mapM UpdatedRow.decode =
      returning (claim now ids db.requests) (zs.map Prod.fst) := by
  rw [returning, List.mapM_map, List.mapM_map]
  refine Lists.mapM_congr fun z hz => ?_
  have hget := Table.get?_eq_some.2 (hzs z hz)
  simp only [Function.comp_apply, get?_claim, hget, Option.map_some, returnedValues,
    UpdatedRow.decode]
  split <;> simp only [Option.map_eq_bind, Option.bind_eq_bind, Option.bind_some] <;> rfl

/-- Phase 1: the oldest rows that are due are taken, and handed back in any order. -/
theorem updates_claim {o : Option (List UpdatedRow)} :
    (∃ rows, db.Updates now claimSql claimBinds t rows ∧ rows.mapM UpdatedRow.decode = o) ↔
      ∃ chosen, OldestDue now db.requests chosen ∧ t = claim now chosen db.requests ∧
        o = returning t chosen := by
  refine ⟨?_, ?_⟩
  · rintro ⟨rows, hupdates, rfl⟩
    obtain ⟨ids, hold, rfl, hperm⟩ := updates_claim_rows.1 hupdates
    obtain ⟨zs, hzs, rfl⟩ := Lists.exists_perm_map hperm
    have hids := (hzs.map Prod.fst).trans hold.perm_rows
    refine ⟨zs.map Prod.fst, hold.perm hids, claim_congr fun id => hids.mem_iff.symm, ?_⟩
    exact mapM_decode_returned fun z hz => List.mem_of_mem_filter (hzs.subset hz)
  · rintro ⟨chosen, hold, rfl, rfl⟩
    obtain ⟨zs, hzs, rfl⟩ := Lists.exists_perm_map hold.perm_rows.symm
    refine ⟨zs.map returnedValues, updates_claim_rows.2 ⟨zs.map Prod.fst, hold, rfl, hzs.map _⟩, ?_⟩
    exact mapM_decode_returned fun z hz => List.mem_of_mem_filter (hzs.subset hz)

/-! ## Phase 2 -/

/-- Requests and contents, side by side. -/
def fetchProduct (db : Db) : Product SqlValue :=
  ⟨[("r", requestColumns), ("c", "id" :: contentColumns)],
    db.requests.rows.flatMap fun r => db.contents.rows.map fun c =>
      [r.2.column r.1, c.2.column c.1]⟩

theorem product_fetch (db : Db) (n : ℕ) :
    (fetchStatement n).product db.relation = some (fetchProduct db) := by
  rw [(fetchStatement n).product_join db.relation rfl rfl rfl]
  simp only [List.flatMap_map, List.map_map]
  rfl

theorem holdsAll_fetch {ids : List Int} (r : Int × RequestRow) (c : Int × ContentRow) :
    holdsAll (sqlValues now) (boundTo (fetchBinds ids)) (fetchProduct db).names
      [r.2.column r.1, c.2.column c.1] (fetchStatement ids.length).conditions =
        decide (r.2.contentId = c.1 ∧ r.1 ∈ ids) := by
  have hboth : holdsAll (sqlValues now) (boundTo (fetchBinds ids)) (fetchProduct db).names
      [r.2.column r.1, c.2.column c.1] (fetchStatement ids.length).conditions =
      (decide (r.2.contentId = c.1) && (((List.range' 0 ids.length).any fun k =>
        SqlValue.eq (.int r.1) (boundTo (fetchBinds ids) k)) && true)) := rfl
  have hany := any_boundTo [] ids r.1
  rw [List.nil_append] at hany
  rw [hboth, Bool.and_true, Bool.decide_and]
  exact congrArg (_ && ·) hany

/-- The rows of the JOIN, each with its content. -/
def fetchPairs (db : Db) (ids : List Int) : List ((Int × RequestRow) × (Int × ContentRow)) :=
  pairs db.requests.rows db.contents.rows fun r c => r.2.contentId = c.1 ∧ r.1 ∈ ids

theorem groups_fetch (db : Db) (ids : List Int) :
    (fetchStatement ids.length).groups (sqlValues now) (boundTo (fetchBinds ids))
      (fetchProduct db) = (fetchPairs db ids).map fun x => [[x.1.2.column x.1.1, x.2.2.column x.2.1]] :=
  Select.groups_rows rfl rfl (filter_pairs _ _ _ (fun r c => holdsAll_fetch r c) _ _)

theorem joined_eq (db : Db) (ids : List Int) :
    joined db ids = (fetchPairs db ids).map fun x => (x.1.1, x.1.2, x.2.2) := by
  rw [joined, fetchPairs, pairs, List.map_flatMap, List.filterMap_eq_flatMap_toList]
  refine List.flatMap_congr fun r _ => ?_
  by_cases hr : r.1 ∈ ids
  · simp only [hr, if_true, and_true, Table.filter_id]
    cases db.contents.get? r.2.contentId <;> rfl
  · simp only [hr, if_false, and_false, decide_false, List.filter_false]
    rfl

/-- What the `SELECT` gives for a request and its content. -/
def fetchedValues (x : (Int × RequestRow) × (Int × ContentRow)) : List SqlValue :=
  [.int x.1.1, .text x.1.2.topicId, .int x.1.2.contentId, .text x.1.2.email, .text x.2.2.subject,
    .text x.2.2.content]

theorem selects_fetch_rows {ids : List Int} (hids : ids ≠ []) :
    db.Selects now (fetchSql ids.length) (fetchBinds ids) rows ↔
      ∃ xs : List ((Int × RequestRow) × (Int × ContentRow)), xs.Perm (fetchPairs db ids) ∧
        rows = xs.map fetchedValues := by
  have hparse := parse_fetchSql fun h => hids (List.length_eq_zero_iff.1 h)
  have hout : ∀ x ∈ fetchPairs db ids, (fetchStatement ids.length).output (sqlValues now)
      (boundTo (fetchBinds ids)) (fetchProduct db) [[x.1.2.column x.1.1, x.2.2.column x.2.1]] =
        some (fetchedValues x) := fun _ _ => rfl
  rw [← (fetchStatement ids.length).yields_perm_iff (sqlValues now) (boundTo (fetchBinds ids))
    db.relation rfl rfl (product_fetch db ids.length) rfl (groups_fetch db ids) hout]
  exact selects_iff hparse

/-- Phase 2 may answer with the rows of the JOIN, in any order. -/
theorem selects_fetch {ids : List Int} {o : Option (List ScheduledEmailRow)} (hids : ids ≠ []) :
    (∃ rows, db.Selects now (fetchSql ids.length) (fetchBinds ids) rows ∧
      rows.mapM ScheduledEmailRow.decode = o) ↔
    Option.Rel List.Perm o (selectScheduled db ids) := by
  have hselect : selectScheduled db ids =
      (fetchPairs db ids).mapM fun x => ScheduledEmailRow.decode (fetchedValues x) := by
    rw [selectScheduled, joined_eq, List.mapM_map]
    refine Lists.mapM_congr fun x _ => ?_
    simp only [Function.comp_apply, fetchedValues, ScheduledEmailRow.decode, Option.map_eq_bind]
    rfl
  rw [hselect, ← Lists.exists_perm_mapM]
  simp only [selects_fetch_rows hids]
  refine ⟨?_, ?_⟩
  · rintro ⟨rows, ⟨xs, hperm, rfl⟩, rfl⟩
    exact ⟨xs, hperm, by rw [List.mapM_map]; rfl⟩
  · rintro ⟨xs, hperm, rfl⟩
    exact ⟨_, ⟨xs, hperm, rfl⟩, by rw [List.mapM_map]; rfl⟩

/-- Both phases of `fetch_and_process_batch` by the texts they send. -/
theorem batch_statements_exact (now : Instant) (db : Db) :
    (∀ t o, (∃ rows, db.Updates now claimSql claimBinds t rows ∧
        rows.mapM UpdatedRow.decode = o) ↔
      ∃ chosen, OldestDue now db.requests chosen ∧ t = claim now chosen db.requests ∧
        o = returning t chosen) ∧
    ∀ ids, ids ≠ [] → ∀ o, (∃ rows, db.Selects now (fetchSql ids.length) (fetchBinds ids) rows ∧
        rows.mapM ScheduledEmailRow.decode = o) ↔
      Option.Rel List.Perm o (selectScheduled db ids) :=
  ⟨fun _ _ => updates_claim, fun _ hids _ => selects_fetch hids⟩

theorem batch_statements_exact_sample : ∃ t rows rows',
    dueDb.Updates newYear claimSql claimBinds t rows ∧
    rows.mapM UpdatedRow.decode = returning t [1] ∧
    Db.Selects { dueDb with requests := t } newYear (fetchSql 1) (fetchBinds [1]) rows' ∧
    rows'.mapM ScheduledEmailRow.decode = some closedBatch.rows := by
  have hselect : selectScheduled { dueDb with requests := claim newYear [1] dueDb.requests } [1] =
      some closedBatch.rows := by decide
  have hrel : Option.Rel List.Perm (some closedBatch.rows)
      (selectScheduled { dueDb with requests := claim newYear [1] dueDb.requests } [1]) := by
    rw [hselect]
    exact .some (List.Perm.refl _)
  obtain ⟨rows, hclaim, hrows⟩ := ((batch_statements_exact newYear dueDb).1 _ _).2
    ⟨[1], by decide, rfl, rfl⟩
  obtain ⟨rows', hfetch, hrows'⟩ := ((batch_statements_exact newYear
    { dueDb with requests := claim newYear [1] dueDb.requests }).2 [1] (by decide) _).2 hrel
  exact ⟨_, rows, rows', hclaim, hrows, hfetch, hrows'⟩

/-- The other `UPDATE`s by their texts: each has one outcome. -/
theorem update_statements_exact (now : Instant) (db : Db) (t : Table RequestRow)
    (rows : List (List SqlValue)) :
    (∀ req : EmailRequest, db.Updates now EmailRequest.updateSql req.updateBinds t rows ↔
      t = req.update now db.requests ∧ rows = []) ∧
    (∀ topicId, db.Updates now EmailRequest.stopTopicSql (EmailRequest.stopTopicBinds topicId) t
        rows ↔
      t = EmailRequest.stopTopic now topicId db.requests ∧ rows = []) ∧
    ∀ ids, ids ≠ [] → (db.Updates now (rollbackSql ids.length) (rollbackBinds ids) t rows ↔
      t = rollbackToCreated now ids db.requests ∧ rows = []) :=
  ⟨fun req => req.updates_update, fun topicId => updates_stopTopic topicId,
    fun _ hids => updates_rollback hids⟩

theorem update_statements_exact_sample :
    dueDb.Updates newYear (rollbackSql 2) (rollbackBinds [1, 7])
      (rollbackToCreated newYear [1, 7] dueDb.requests) [] :=
  ((update_statements_exact newYear dueDb _ []).2.2 [1, 7] (by decide)).2 ⟨rfl, rfl⟩

end Ses
