import SesSender.Proofs.LifeCycle
import SesSender.Proofs.Pickup
import SesSender.Proofs.Responses

/-! The rows the results of requests are written to. A request carries the rowid of
its row narrowed to 32 bits. -/

namespace Ses

open Calendar

variable {E : Env}

theorem asI32_toInt_le (id : Int) : (asI32 id).toInt ≤ i32Max := by
  have := (asI32 id).toInt_lt
  unfold i32Max
  omega

/-- The narrowed id names its row exactly when the rowid fits. -/
theorem rowid_eq_iff {req : EmailRequest} {id : Int} (h : req.id = some (asI32 id)) (hpos : 0 < id) :
    req.rowid = some id ↔ id ≤ i32Max := by
  rw [EmailRequest.rowid, h, Option.map_some, Option.some.injEq]
  refine ⟨?_, ?_⟩
  · intro heq
    rw [← heq]
    exact asI32_toInt_le id
  · exact asI32_toInt hpos.le

/-! ## The rows requests are made from -/

/-- A request and the row it was made from. -/
structure MadeFrom (t : Table RequestRow) (req : EmailRequest) (id : Int) : Prop where
  narrowed : req.id = some (asI32 id)
  row : ∃ row, t.get? id = some row ∧ req.topicId = some row.topicId ∧
    req.contentId.map Int32.toInt = some row.contentId ∧ req.email = row.email

theorem MadeFrom.pos {t : Table RequestRow} {req : EmailRequest} {id : Int}
    (h : MadeFrom t req id) : 0 < id := by
  obtain ⟨row, hrow, -⟩ := h.row
  exact Table.pos_of_get? hrow

theorem madeFrom_of_toRow {t : Table RequestRow} {req : EmailRequest} {id : Int} {row : RequestRow}
    {now : Instant} (hid : req.id = some (asI32 id)) (hrow : t.get? id = some row)
    (hto : EmailRequest.toRow E now req = some row) : MadeFrom t req id := by
  refine ⟨hid, row, hrow, ?_⟩
  obtain ⟨topicId, contentId, ht, hc, rfl⟩ := EmailRequest.toRow_eq_some.1 hto
  exact ⟨ht, by rw [hc]; rfl, rfl⟩

theorem MadeFrom.rollback {t : Table RequestRow} {req : EmailRequest} {id : Int}
    (h : MadeFrom t req id) (now : Instant) (failed : List EmailRequest) :
    MadeFrom (rollbackToCreated now (failed.filterMap (·.id)) t) req id := by
  obtain ⟨row, hrow, hrest⟩ := h.row
  refine ⟨h.narrowed, _, by rw [get?_rollbackToCreated, hrow]; rfl, ?_⟩
  split <;> exact hrest

/-- What `create_message` pushes is made from rows it has inserted. -/
theorem createMessage_madeFrom (env : CreateEnv) (payload : CreateMessageRequest) (db : Db) :
    ∀ req ∈ (createMessage E env payload db).pushed, ∃ id, db.requests.seq < id ∧
      MadeFrom (createMessage E env payload db).db.requests req id := by
  intro req hreq
  have hresponds := createMessage_responds E env payload db
  generalize createMessage E env payload db = res at hreq hresponds ⊢
  cases hresponds with
  | empty => cases hreq
  | contentsFailed => cases hreq
  | tooMany => cases hreq
  | requestsFailed => cases hreq
  | scheduled => cases hreq
  | immediate msgs fit contents few fit' stores =>
    have hsaved := (handOff_ends (payload.saved db) env.outcomes).prefix_pushed.subset hreq
    obtain ⟨id, row, now, hlt, -, hid, hrow, hto⟩ := EmailRequest.stored_row stores hsaved
    have hmade := madeFrom_of_toRow hid hrow hto
    refine ⟨id, hlt, ?_⟩
    dsimp only
    split
    · exact hmade
    · exact hmade.rollback _ _

/-- What the scheduler pushes is made from the rows of its `SELECT`, in order. -/
theorem fetchAndProcessBatch_madeFrom {env : BatchEnv} {db : Db} {res : BatchResult}
    (h : fetchAndProcessBatch env db = some res) :
    ∃ rows, rows <+: env.rows ∧ res.pushed = rows.map ScheduledEmailRow.toRequest ∧
      ∀ row ∈ rows, MadeFrom res.db.requests row.toRequest row.id := by
  have hmade : ∀ rows, selectScheduled (env.claimed db) env.chosen = some rows →
      env.rows.Perm rows → ∀ row ∈ env.rows,
        MadeFrom (env.claimed db).requests row.toRequest row.id := by
    intro rows hsel hperm row hrow
    obtain ⟨⟨id, r, c⟩, hj, hid, ht, hc, he, -⟩ :=
      Lists.forall₂_mem_right (selectScheduled_spec hsel) (hperm.subset hrow)
    obtain ⟨-, hget, -⟩ := mem_joined.1 hj
    simp only at hid ht hc he
    rw [← hid] at hget
    exact ⟨rfl, r, hget, congrArg some ht, congrArg some hc, he⟩
  cases Fetched.of_call h with
  | closed oldest selected perm after lt =>
    exact ⟨env.rows.take _, List.take_prefix _ _, rfl,
      fun row hrow => hmade _ selected perm row (List.mem_of_mem_take hrow)⟩
  | sent oldest chosen selected perm =>
    exact ⟨env.rows, List.prefix_refl _, rfl, hmade _ selected perm⟩
  | _ => exact ⟨[], List.nil_prefix, rfl, fun row hrow => by cases hrow⟩

/-! ## The rows results are written to -/

/-- The results are written to the rows paired with them, and to no other row. -/
structure WritesRows (now : Instant) (pairs : List (EmailRequest × Int))
    (t t' : Table RequestRow) : Prop where
  others : ∀ id, id ∉ pairs.map Prod.snd → t'.get? id = t.get? id
  written : ∀ p ∈ pairs, ∃ row, t'.get? p.2 = some row ∧ row.status = p.1.status ∧
    (∀ m, p.1.messageId = some m → row.messageId = some m) ∧
    (∀ e, p.1.error = some e → row.error = some e) ∧ row.updatedAt = now.stamp

/-- A result, and the row its request was made from. -/
def ResultOf (t : Table RequestRow) (p : EmailRequest × Int) : Prop :=
  ∃ req result, MadeFrom t req p.2 ∧ p.1 = req.answered result

theorem ResultOf.narrowed {t : Table RequestRow} {p : EmailRequest × Int} (h : ResultOf t p) :
    p.1.id = some (asI32 p.2) ∧ 0 < p.2 ∧ ∃ row, t.get? p.2 = some row := by
  obtain ⟨req, result, hmade, hp⟩ := h
  obtain ⟨row, hrow, -⟩ := hmade.row
  refine ⟨?_, hmade.pos, row, hrow⟩
  rw [hp]
  cases result <;> exact hmade.narrowed

/-- No text is the clock's at all times. -/
theorem exists_stamp_ne (s : String) : ∃ now : Instant, now.stamp ≠ s := by
  by_cases h : newYear.stamp = s
  · refine ⟨⟨(Date.newYear 2031).midnight, by decide⟩, ?_⟩
    rw [← h]
    decide
  · exact ⟨newYear, h⟩

theorem update_writes_iff {t : Table RequestRow} {p : EmailRequest × Int} (h : ResultOf t p) :
    (∀ now, WritesRows now [p] t (p.1.update now t)) ↔ p.2 ≤ i32Max := by
  obtain ⟨hid, hpos, row, hrow⟩ := h.narrowed
  refine ⟨?_, ?_⟩
  · intro hall
    by_contra hbig
    obtain ⟨now, hne⟩ := exists_stamp_ne row.updatedAt
    obtain ⟨row', hrow', -, -, -, hat⟩ := (hall now).written p (by simp)
    rw [get?_update, hrow, Option.map_some, if_neg (mt (rowid_eq_iff hid hpos).1 hbig)] at hrow'
    obtain rfl := Option.some.inj hrow'
    exact hne hat.symm
  · intro hle now
    have hrowid := (rowid_eq_iff hid hpos).2 hle
    refine ⟨fun id hno => ?_, fun p' hp' => ?_⟩
    · have hne : p.1.rowid ≠ some id := by
        rw [hrowid]
        simpa [eq_comm] using hno
      rw [get?_update]
      cases t.get? id with
      | none => rfl
      | some row => rw [Option.map_some, if_neg hne]
    · obtain rfl := List.mem_singleton.1 hp'
      rw [get?_update, hrow, Option.map_some, if_pos hrowid]
      exact ⟨_, rfl, rfl, fun m hm => hm, fun e he => he, rfl⟩

theorem rowids_of_fit {t : Table RequestRow} {pairs : List (EmailRequest × Int)}
    (h : ∀ p ∈ pairs, ResultOf t p) (hfit : ∀ p ∈ pairs, p.2 ≤ i32Max) :
    (pairs.map Prod.fst).filterMap (·.rowid) = pairs.map Prod.snd := by
  rw [List.filterMap_map, ← List.filterMap_eq_map]
  apply List.filterMap_congr
  intro p hp
  obtain ⟨hid, hpos, -⟩ := (h p hp).narrowed
  exact (rowid_eq_iff hid hpos).2 (hfit p hp)

theorem bulkUpdateAll_writes_iff {t : Table RequestRow} {pairs : List (EmailRequest × Int)}
    (h : ∀ p ∈ pairs, ResultOf t p) (hn : (pairs.map Prod.snd).Nodup) :
    (∀ now, ∃ t', bulkUpdateAll now (pairs.map Prod.fst) t = some t' ∧
      WritesRows now pairs t t') ↔ ∀ p ∈ pairs, p.2 ≤ i32Max := by
  refine ⟨?_, ?_⟩
  · intro hall p hp
    by_contra hbig
    obtain ⟨-, -, row, hrow⟩ := (h p hp).narrowed
    obtain ⟨now, hne⟩ := exists_stamp_ne row.updatedAt
    obtain ⟨t', ht', hwrites⟩ := hall now
    have hno : some p.2 ∉ (pairs.map Prod.fst).map (·.rowid) := by
      intro hin
      obtain ⟨req, hreq, hreqid⟩ := List.mem_map.1 hin
      obtain ⟨q, hq, rfl⟩ := List.mem_map.1 hreq
      obtain ⟨hid, -⟩ := (h q hq).narrowed
      rw [EmailRequest.rowid, hid, Option.map_some, Option.some.injEq] at hreqid
      exact hbig (hreqid ▸ asI32_toInt_le q.2)
    obtain ⟨row', hrow', -, -, -, hat⟩ := hwrites.written p hp
    rw [get?_bulkUpdateAll ht', hrow, Option.map_some, if_neg hno] at hrow'
    obtain rfl := Option.some.inj hrow'
    exact hne hat.symm
  · intro hfit now
    have hrowids := rowids_of_fit h hfit
    have hmem : ∀ id, some id ∈ (pairs.map Prod.fst).map (·.rowid) ↔ id ∈ pairs.map Prod.snd := by
      intro id
      rw [← hrowids, List.mem_filterMap, List.mem_map]
    obtain ⟨t', ht', -, hget⟩ := bulkUpdateAll_spec now (pairs.map Prod.fst) t
    refine ⟨t', ht', fun id hno => ?_, fun p hp => ?_⟩
    · rw [hget]
      cases t.get? id with
      | none => rfl
      | some row => rw [Option.map_some, if_neg (mt (hmem id).1 hno)]
    · obtain ⟨hid, hpos, row, hrow⟩ := (h p hp).narrowed
      have hin := (hmem p.2).2 (List.mem_map_of_mem hp)
      rw [hget, hrow, Option.map_some, if_pos hin, bulkWritten_of_nodup (by rwa [hrowids])
        (List.mem_map_of_mem hp) ((rowid_eq_iff hid hpos).2 (hfit p hp))]
      exact ⟨_, rfl, rfl, fun m hm => by simp [hm], fun e he => by simp [he], rfl⟩

/-- Requests are made from rows, and their results are written to these rows and no
other exactly when the rowids are at most `i32::MAX`. -/
theorem results_written_to_own_rows_iff :
    (∀ env payload db, ∀ req ∈ (createMessage E env payload db).pushed,
      ∃ id, db.requests.seq < id ∧
        MadeFrom (createMessage E env payload db).db.requests req id) ∧
    (∀ env db res, fetchAndProcessBatch env db = some res →
      ∃ rows, rows <+: env.rows ∧ res.pushed = rows.map ScheduledEmailRow.toRequest ∧
        ∀ row ∈ rows, MadeFrom res.db.requests row.toRequest row.id) ∧
    ∀ (t : Table RequestRow) (pairs : List (EmailRequest × Int)),
      (∀ p ∈ pairs, ResultOf t p) → (pairs.map Prod.snd).Nodup →
      (∀ p ∈ pairs, (∀ now, WritesRows now [p] t (p.1.update now t)) ↔ p.2 ≤ i32Max) ∧
      ((∀ now, ∃ t', bulkUpdateAll now (pairs.map Prod.fst) t = some t' ∧
        WritesRows now pairs t t') ↔ ∀ p ∈ pairs, p.2 ≤ i32Max) :=
  ⟨createMessage_madeFrom, fun _ _ _ => fetchAndProcessBatch_madeFrom,
    fun _ _ h hn => ⟨fun p hp => update_writes_iff (h p hp), bulkUpdateAll_writes_iff h hn⟩⟩

/-- Row 1 has its result, and row 2³² + 1 is due. -/
def wideDb : Db where
  contents := Table.empty.append [⟨"Hello", "<p>Hi</p>", ""⟩]
  requests :=
    { rows := [(1, ⟨"a", 1, some "m-1", "first@example.com", "", 2, none, "", ""⟩),
        (4294967297, ⟨"b", 1, none, "last@example.com", "", 0, none, "", ""⟩)]
      seq := 4294967297
      seq_nonneg := by decide
      nodup := by decide
      bound := by decide }
  results := Table.empty

def firstMail : ScheduledEmailRow :=
  ⟨1, "a", 1, "first@example.com", "Hello", "<p>Hi</p>"⟩

def lastMail : ScheduledEmailRow :=
  ⟨4294967297, "b", 1, "last@example.com", "Hello", "<p>Hi</p>"⟩

theorem results_written_to_own_rows_iff_sample :
    (∀ now, WritesRows now [(firstMail.toRequest.answered (.ok "m-1"), 1)] wideDb.requests
      ((firstMail.toRequest.answered (.ok "m-1")).update now wideDb.requests)) ∧
    ¬ ∀ now, WritesRows now [(lastMail.toRequest.answered (.ok "m-2"), 4294967297)] wideDb.requests
      ((lastMail.toRequest.answered (.ok "m-2")).update now wideDb.requests) := by
  have hfirst : ResultOf wideDb.requests (firstMail.toRequest.answered (.ok "m-1"), 1) :=
    ⟨firstMail.toRequest, .ok "m-1", ⟨rfl, _, rfl, rfl, rfl, rfl⟩, rfl⟩
  have hlast : ResultOf wideDb.requests (lastMail.toRequest.answered (.ok "m-2"), 4294967297) :=
    ⟨lastMail.toRequest, .ok "m-2", ⟨rfl, _, rfl, rfl, rfl, rfl⟩, rfl⟩
  have hiff := (results_written_to_own_rows_iff (E := sampleEnv)).2.2 wideDb.requests
    [(firstMail.toRequest.answered (.ok "m-1"), 1),
      (lastMail.toRequest.answered (.ok "m-2"), 4294967297)]
    (by simp [hfirst, hlast]) (by decide)
  refine ⟨(hiff.1 _ (by simp)).2 (by decide), fun hall => ?_⟩
  exact absurd ((hiff.1 _ (by simp)).1 hall) (by decide)

def wideBatch : BatchEnv := ⟨newYear, [4294967297], [lastMail], false, false, none⟩

/-- The scheduler pushes row 2³² + 1 under the id 1, and its result overwrites row 1. -/
theorem wide_result_overwrites_first :
    ∃ res, fetchAndProcessBatch wideBatch wideDb = some res ∧
      res.pushed = [lastMail.toRequest] ∧ lastMail.toRequest.rowid = some 1 ∧
      let t := (lastMail.toRequest.answered (.ok "m-2")).update newYear res.db.requests
      (res.db.requests.get? 1).map (·.messageId) = some (some "m-1") ∧
      (t.get? 1).map (·.messageId) = some (some "m-2") ∧
      (t.get? 4294967297).map (·.messageId) = some none := by
  have hcall : (fetchAndProcessBatch wideBatch wideDb).any (fun res =>
      let t := (lastMail.toRequest.answered (.ok "m-2")).update newYear res.db.requests
      decide (res.pushed = [lastMail.toRequest] ∧ lastMail.toRequest.rowid = some 1 ∧
        (res.db.requests.get? 1).map (·.messageId) = some (some "m-1") ∧
        (t.get? 1).map (·.messageId) = some (some "m-2") ∧
        (t.get? 4294967297).map (·.messageId) = some none)) = true := by decide
  obtain ⟨res, hres, h⟩ := (Option.any_eq_true _ _).1 hcall
  exact ⟨res, hres, of_decide_eq_true h⟩

end Ses
