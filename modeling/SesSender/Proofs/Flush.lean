import SesSender.Proofs.LifeCycle
import SesSender.Spec.Flush

/-! `flush_batch`, by the one statement and by the fallback. Both write to each
row what its own request carries. -/

namespace Ses

open Calendar

variable {env : FlushEnv} {batch : List EmailRequest} {t t' t'' : Table RequestRow} {now : Instant}

/-- A row with the result of a request written to it. -/
def EmailRequest.write (req : EmailRequest) (now : Instant) (row : RequestRow) : RequestRow :=
  { row with status := req.status, messageId := req.messageId, error := req.error
             updatedAt := now.stamp }

/-- The requests name different rows, and no result is in these yet. -/
structure Flushable (t : Table RequestRow) (batch : List EmailRequest) : Prop where
  nodup : (batch.filterMap (·.rowid)).Nodup
  blank : ∀ req ∈ batch, ∀ id row, req.rowid = some id → t.get? id = some row →
    row.messageId = none ∧ row.error = none

theorem mem_map_rowid {id : Int} :
    some id ∈ batch.map (·.rowid) ↔ ∃ req ∈ batch, req.rowid = some id :=
  List.mem_map

theorem not_mem_map_rowid {id : Int} (hno : ∀ req ∈ batch, req.rowid ≠ some id) :
    some id ∉ batch.map (·.rowid) := fun hmem => by
  obtain ⟨req, hreq, hid⟩ := mem_map_rowid.1 hmem
  exact hno req hreq hid

theorem rowid_ne_of_nodup {req : EmailRequest} {id : Int}
    (hn : ((req :: batch).filterMap (·.rowid)).Nodup) (hid : req.rowid = some id) :
    ∀ r ∈ batch, r.rowid ≠ some id := by
  intro r hr hid'
  rw [List.filterMap_cons_some hid, List.nodup_cons] at hn
  exact hn.1 (List.mem_filterMap.2 ⟨r, hr, hid'⟩)

/-! ## The fallback -/

theorem fallback_left (env : FlushEnv) (k : ℕ) (batch : List EmailRequest)
    (t : Table RequestRow) : (fallbackIndividualUpdates env k batch t).2 = [] := by
  induction batch generalizing k t with
  | nil => rfl
  | cons req rest ih => exact ih (k + 1) _

/-- One iteration, as it changes one row. -/
theorem get?_drain (env : FlushEnv) (k : ℕ) (req : EmailRequest) (t : Table RequestRow) (id : Int) :
    (if env.updateFails k then t else req.update (env.clock k) t).get? id =
      (t.get? id).map fun row =>
        if req.rowid = some id ∧ env.updateFails k = false then req.write (env.clock k) row
        else row := by
  cases env.updateFails k with
  | true => simp
  | false => simp [get?_update, EmailRequest.write]

theorem get?_fallback_other {id : Int} (hno : ∀ req ∈ batch, req.rowid ≠ some id) (k : ℕ)
    (t : Table RequestRow) : (fallbackIndividualUpdates env k batch t).1.get? id = t.get? id := by
  induction batch generalizing k t with
  | nil => rfl
  | cons req rest ih =>
    rw [fallbackIndividualUpdates, ih fun r hr => hno r (List.mem_cons_of_mem _ hr), get?_drain]
    simp [hno req List.mem_cons_self]

/-- With distinct ids only the update of its own request touches a row. -/
theorem get?_fallback (hn : (batch.filterMap (·.rowid)).Nodup) {i : ℕ} {req : EmailRequest}
    (hi : batch[i]? = some req) {id : Int} (hid : req.rowid = some id) (k : ℕ)
    (t : Table RequestRow) :
    (fallbackIndividualUpdates env k batch t).1.get? id = (t.get? id).map fun row =>
      if env.updateFails (k + i) then row else req.write (env.clock (k + i)) row := by
  induction batch generalizing i k t with
  | nil => cases hi
  | cons r rest ih =>
    have hrest : (rest.filterMap (·.rowid)).Nodup :=
      hn.sublist ((List.sublist_cons_self r rest).filterMap _)
    rw [fallbackIndividualUpdates]
    cases i with
    | zero =>
      obtain rfl : r = req := by simpa using hi
      rw [get?_fallback_other (rowid_ne_of_nodup hn hid), get?_drain]
      cases env.updateFails k <;> simp [hid]
    | succ i =>
      have hmem : req ∈ rest := List.mem_of_getElem? (by simpa using hi)
      have hne : r.rowid ≠ some id := fun hid' => rowid_ne_of_nodup hn hid' req hmem hid
      rw [ih hrest (by simpa using hi), get?_drain, Nat.add_assoc, Nat.add_comm 1 i]
      simp [hne]

/-! ## Results written -/

/-- `t'` is `t` with the result of each request of the batch in its row. -/
structure Written (batch : List EmailRequest) (t t' : Table RequestRow) : Prop where
  others : ∀ id, (∀ req ∈ batch, req.rowid ≠ some id) → t'.get? id = t.get? id
  own : ∀ req ∈ batch, ∀ id, req.rowid = some id →
    ∃ now, t'.get? id = (t.get? id).map (req.write now)

/-- The same in every column but `updated_at`. -/
def SameRows (t t' : Table RequestRow) : Prop :=
  ∀ id, (t.get? id).map (fun row => { row with updatedAt := "" }) =
    (t'.get? id).map fun row => { row with updatedAt := "" }

theorem Written.perm {batch' : List EmailRequest} (h : Written batch' t t')
    (hperm : batch'.Perm batch) : Written batch t t' :=
  ⟨fun id hno => h.others id fun req hreq => hno req (hperm.subset hreq),
    fun req hreq => h.own req (hperm.symm.subset hreq)⟩

/-- Two ways of writing the same results. -/
theorem Written.sameRows (h : Written batch t t') (h' : Written batch t t'') : SameRows t' t'' := by
  intro id
  by_cases hid : ∃ req ∈ batch, req.rowid = some id
  · obtain ⟨req, hreq, hid⟩ := hid
    obtain ⟨now, hw⟩ := h.own req hreq id hid
    obtain ⟨now', hw'⟩ := h'.own req hreq id hid
    rw [hw, hw', Option.map_map, Option.map_map]
    rfl
  · have hno : ∀ req ∈ batch, req.rowid ≠ some id := fun req hreq h => hid ⟨req, hreq, h⟩
    rw [h.others id hno, h'.others id hno]

/-- What is written twice is written once. -/
theorem Written.again (h : Written batch t t') (h' : Written batch t' t'') :
    Written batch t t'' := by
  refine ⟨fun id hno => (h'.others id hno).trans (h.others id hno), fun req hreq id hid => ?_⟩
  obtain ⟨now, hw⟩ := h.own req hreq id hid
  obtain ⟨now', hw'⟩ := h'.own req hreq id hid
  refine ⟨now', ?_⟩
  rw [hw', hw, Option.map_map]
  rfl

theorem written_fallback (hn : (batch.filterMap (·.rowid)).Nodup)
    (hok : ∀ k, env.updateFails k = false) (t : Table RequestRow) :
    Written batch t (fallbackIndividualUpdates env 0 batch t).1 := by
  refine ⟨fun id hno => get?_fallback_other hno 0 t, fun req hreq id hid => ?_⟩
  obtain ⟨i, hi⟩ := List.mem_iff_getElem?.1 hreq
  refine ⟨env.clock (0 + i), ?_⟩
  rw [get?_fallback hn hi hid]
  simp only [hok, Bool.false_eq_true, if_false]

theorem Flushable.written_bulk (h : Flushable t batch) (now : Instant) :
    ∃ t', bulkUpdateAll now batch t = some t' ∧ Written batch t t' ∧
      ∀ req ∈ batch, ∀ id, req.rowid = some id → t'.get? id = (t.get? id).map (req.write now) := by
  obtain ⟨t', ht', -, hget⟩ := bulkUpdateAll_spec now batch t
  have hown : ∀ req ∈ batch, ∀ id, req.rowid = some id →
      t'.get? id = (t.get? id).map (req.write now) := by
    intro req hreq id hid
    rw [hget]
    cases hrow : t.get? id with
    | none => rfl
    | some row =>
      obtain ⟨hm, he⟩ := h.blank req hreq id row hid hrow
      rw [Option.map_some, if_pos (mem_map_rowid.2 ⟨req, hreq, hid⟩),
        bulkWritten_of_nodup h.nodup hreq hid, hm, he]
      simp [EmailRequest.write]
  refine ⟨t', ht', ⟨fun id hno => ?_, fun req hreq id hid => ⟨now, hown req hreq id hid⟩⟩, hown⟩
  have hnot := not_mem_map_rowid hno
  rw [hget]
  simp [hnot]

/-! ## The flush -/

theorem flush_left (env : FlushEnv) (batch : List EmailRequest) (t : Table RequestRow) :
    (flushBatch env batch t).2 = [] := by
  unfold flushBatch
  split
  · rename_i hemp
    simpa using hemp
  · split
    · rfl
    · exact fallback_left env 0 batch _

/-- A flush with ids to write, by how its bulk statement goes. -/
theorem flushBatch_eq {req : EmailRequest} (hreq : req ∈ batch) {id : Int}
    (hid : req.rowid = some id) (htbulk : bulkUpdateAll env.bulkNow batch t = some t') :
    (flushBatch env batch t).1 =
      match env.bulk with
      | .ran => t'
      | .failed => (fallbackIndividualUpdates env 0 batch t).1
      | .unanswered => (fallbackIndividualUpdates env 0 batch t').1 := by
  have hne : batch.isEmpty = false := by
    cases batch with
    | nil => cases hreq
    | cons => rfl
  obtain ⟨i, hi, -⟩ := Option.map_eq_some_iff.1 hid
  have hids : (batch.filterMap (·.id)).isEmpty = false := by
    rw [List.isEmpty_eq_false_iff_exists_mem]
    exact ⟨i, List.mem_filterMap.2 ⟨req, hreq, hi⟩⟩
  simp only [flushBatch, FlushEnv.runBulk, hne, hids, htbulk, Bool.false_eq_true, if_false]
  cases env.bulk <;> rfl

/-- A flush writes a result unless the bulk statement and its own update both fail. -/
theorem Flushable.get?_flush (h : Flushable t batch) (env : FlushEnv) {i : ℕ} {req : EmailRequest}
    (hi : batch[i]? = some req) {id : Int} (hid : req.rowid = some id) :
    ∃ now, (flushBatch env batch t).1.get? id = (t.get? id).map fun row =>
      if env.bulk = .failed ∧ env.updateFails i = true then row else req.write now row := by
  have hreq := List.mem_of_getElem? hi
  obtain ⟨t', ht', -, hget⟩ := h.written_bulk env.bulkNow
  rw [flushBatch_eq hreq hid ht']
  cases hbulk : env.bulk with
  | ran => exact ⟨env.bulkNow, by simpa using hget req hreq id hid⟩
  | failed =>
    refine ⟨env.clock i, ?_⟩
    rw [get?_fallback h.nodup hi hid]
    simp
  | unanswered =>
    rw [get?_fallback h.nodup hi hid, hget req hreq id hid, Option.map_map, Nat.zero_add]
    cases hfails : env.updateFails i with
    | true => exact ⟨env.bulkNow, by simp [Function.comp_def]⟩
    | false => exact ⟨env.clock i, by simp [Function.comp_def, EmailRequest.write]⟩

theorem get?_flush_other {id : Int} (hno : ∀ req ∈ batch, req.rowid ≠ some id) (env : FlushEnv)
    (t : Table RequestRow) : (flushBatch env batch t).1.get? id = t.get? id := by
  obtain ⟨t', ht', -, hget⟩ := bulkUpdateAll_spec env.bulkNow batch t
  have hnot := not_mem_map_rowid hno
  have hbulk : ∀ r, env.runBulk batch t = r → r.1.get? id = t.get? id := by
    rintro r rfl
    unfold FlushEnv.runBulk
    rw [ht']
    split
    · rfl
    · cases env.bulk with
      | failed => rfl
      | ran => simp [hget, hnot]
      | unanswered => simp [hget, hnot]
  unfold flushBatch
  split
  · rfl
  · split
    · rename_i heq
      exact hbulk _ heq
    · rename_i heq
      rw [get?_fallback_other hno]
      exact hbulk _ heq

theorem Flushable.written_flush (h : Flushable t batch) (env : FlushEnv)
    (hok : ∀ k, env.updateFails k = false) : Written batch t (flushBatch env batch t).1 := by
  refine ⟨fun id hno => get?_flush_other hno env t, fun req hreq id hid => ?_⟩
  obtain ⟨i, hi⟩ := List.mem_iff_getElem?.1 hreq
  obtain ⟨now, hget⟩ := h.get?_flush env hi hid
  refine ⟨now, hget.trans ?_⟩
  simp [hok]

/-- What the post-processor holds is as a flush needs it, in every run. -/
theorem Run.flushable {E : Env} {s : Sys} {now₀ : Instant} {evs : List Event}
    (hrun : Run E now₀ evs s) (hfit : s.IdsFit) : Flushable s.db.requests s.post.batch ∧
      ∀ req ∈ s.post.batch, ∃ id row, req.rowid = some id ∧ s.db.requests.get? id = some row := by
  have h := hrun.inv hfit
  refine ⟨⟨nodup_batch h.book, fun req hreq id row hid hrow => ?_⟩, fun req hreq => ?_⟩
  · obtain ⟨row', hrow', -, hm, he⟩ := h.rows.held_row h.book (mem_far_of_batch hreq hid)
    obtain rfl := Option.some.inj (hrow'.symm.trans hrow)
    exact ⟨hm, he⟩
  · obtain ⟨i, hi⟩ := (h.carried.batch req hreq).id
    have hid : req.rowid = some i.toInt := by rw [EmailRequest.rowid, hi, Option.map_some]
    obtain ⟨row, hrow, -⟩ := h.rows.held_row h.book (mem_far_of_batch hreq hid)
    exact ⟨i.toInt, row, hid, hrow⟩

/-- The bulk statement leaves the rows that the individual updates leave, in any
order of the batch; these change nothing on top of it; and a flush leaves the same
rows whichever of the two did the work. -/
theorem bulk_eq_individual (h : Flushable t batch) (now : Instant) :
    ∃ t', bulkUpdateAll now batch t = some t' ∧
      (∀ env batch', batch'.Perm batch → (∀ k, env.updateFails k = false) →
        SameRows t' (fallbackIndividualUpdates env 0 batch' t).1 ∧
        SameRows t' (fallbackIndividualUpdates env 0 batch' t').1) ∧
      ∀ env, (∀ k, env.updateFails k = false) →
        SameRows t' (flushBatch env batch t).1 ∧ (flushBatch env batch t).2 = [] := by
  obtain ⟨t', ht', hbulk, -⟩ := h.written_bulk now
  refine ⟨t', ht', fun env batch' hperm hok => ?_, fun env hok => ?_⟩
  · have hn : (batch'.filterMap (·.rowid)).Nodup :=
      (hperm.filterMap _).nodup_iff.2 h.nodup
    have hfallback := fun t => (written_fallback hn hok t).perm hperm
    exact ⟨hbulk.sameRows (hfallback t), hbulk.sameRows (hbulk.again (hfallback t'))⟩
  · exact ⟨hbulk.sameRows (h.written_flush env hok), flush_left env batch t⟩

/-- Two processed rows. -/
def processedRows : Table RequestRow :=
  let row : RequestRow := ⟨"a", 1, none, "reader@example.com", newYear.stamp,
    EmailMessageStatus.processed.asI32, none, newYear.stamp, newYear.stamp⟩
  Table.empty.append [row, row]

/-- A result for each of them, and one without an id. -/
def sampleResults : List EmailRequest :=
  let req : EmailRequest := ⟨some 1, some "a", some 1, "reader@example.com", "Hello", "<p>Hi</p>",
    none, EmailMessageStatus.processed.asI32, none, none⟩
  [req.answered (.ok "m-1"), { req with id := some 2 }.answered (.error (.sdk "refused")),
    { req with id := none }.answered (.ok "m-3")]

theorem flushable_sample : Flushable processedRows sampleResults := by
  have hblank : ∀ r ∈ processedRows.rows, r.2.messageId = none ∧ r.2.error = none := by decide
  exact ⟨by decide, fun req _ id row _ hrow => hblank _ (Table.get?_eq_some.1 hrow)⟩

theorem bulk_eq_individual_sample : ∃ t', bulkUpdateAll newYear sampleResults processedRows = some t' ∧
    SameRows t' (fallbackIndividualUpdates ⟨newYear, .ran, fun _ => newYear, fun _ => false⟩ 0
      sampleResults.reverse processedRows).1 := by
  obtain ⟨t', ht', hall, -⟩ := bulk_eq_individual flushable_sample newYear
  exact ⟨t', ht', (hall ⟨newYear, .ran, fun _ => newYear, fun _ => false⟩ sampleResults.reverse
    (List.reverse_perm _) fun _ => rfl).1⟩

/-- In every run the batch is as a flush needs it. The flush empties it, and each of
its results is in its row, unless the bulk statement and its own update both failed:
then its row is as it was. -/
theorem flush_writes_or_drops :
    (∀ E now₀ evs s, Run E now₀ evs s → s.IdsFit → Flushable s.db.requests s.post.batch ∧
      ∀ req ∈ s.post.batch, ∃ id row, req.rowid = some id ∧ s.db.requests.get? id = some row) ∧
    ∀ t batch, Flushable t batch → ∀ env, (flushBatch env batch t).2 = [] ∧
      ∀ (i : ℕ) req id row, batch[i]? = some req → req.rowid = some id → t.get? id = some row →
        ∃ row', (flushBatch env batch t).1.get? id = some row' ∧
          if env.bulk = .failed ∧ env.updateFails i = true then row' = row
          else row'.status = req.status ∧ row'.messageId = req.messageId ∧
            row'.error = req.error := by
  refine ⟨fun E now₀ evs s hrun hfit => hrun.flushable hfit, fun t batch h env =>
    ⟨flush_left env batch t, fun i req id row hi hid hrow => ?_⟩⟩
  obtain ⟨now, hget⟩ := h.get?_flush env hi hid
  rw [hrow, Option.map_some] at hget
  refine ⟨_, hget, ?_⟩
  split
  · rfl
  · exact ⟨rfl, rfl, rfl⟩

theorem flush_writes_or_drops_sample : ∃ row,
    (flushBatch ⟨newYear, .failed, fun _ => newYear, fun k => decide (k = 0)⟩ sampleResults
      processedRows).1.get? 2 = some row ∧
    row.status = EmailMessageStatus.failed.asI32 ∧
    row.error = some "SES SDK error: refused" := by
  have hrow : (processedRows.get? 2).isSome = true := by decide
  obtain ⟨row, hrow⟩ := Option.isSome_iff_exists.1 hrow
  obtain ⟨row', hrow', hif⟩ := (flush_writes_or_drops.2 processedRows sampleResults flushable_sample
    ⟨newYear, .failed, fun _ => newYear, fun k => decide (k = 0)⟩).2 1 _ 2 row rfl (by decide) hrow
  rw [if_neg (by decide)] at hif
  exact ⟨row', hrow', hif.1, hif.2.2⟩

/-- Why the batch has to be as it is: of two results for one row the bulk statement
takes each column from the first that sets it, and a row that holds a message id
keeps it under a result without one. No statement fails in either flush. -/
example :
    let env : FlushEnv := ⟨newYear, .ran, fun _ => newYear, fun _ => false⟩
    let sent := sampleResults.take 1
    let failed := ((sampleResults.drop 1).take 1).map fun req => { req with id := some 1 }
    let columns := fun t : Table RequestRow => (t.get? 1).map fun row =>
      (row.status, row.messageId, row.error)
    columns (flushBatch env (sent ++ failed) processedRows).1 =
        some (EmailMessageStatus.sent.asI32, some "m-1", some "SES SDK error: refused") ∧
      columns (flushBatch env failed (flushBatch env sent processedRows).1).1 =
        some (EmailMessageStatus.failed.asI32, some "m-1", some "SES SDK error: refused") := by
  decide

/-- A result is gone when the bulk statement fails and then its own update. -/
theorem flush_drops :
    ¬ ∀ (env : FlushEnv) (batch : List EmailRequest) (t : Table RequestRow), Flushable t batch →
      ∀ req ∈ batch, ∀ id, req.rowid = some id → req ∈ (flushBatch env batch t).2 ∨
        ∃ row, (flushBatch env batch t).1.get? id = some row ∧ row.status = req.status ∧
          row.messageId = req.messageId ∧ row.error = req.error := by
  intro hall
  have hreq : sampleResults.head (by decide) ∈ sampleResults := List.head_mem _
  rcases hall ⟨newYear, .failed, fun _ => newYear, fun _ => true⟩ sampleResults processedRows
    flushable_sample _ hreq 1 (by decide) with hleft | ⟨row, hrow, hst, -⟩
  · rw [flush_left] at hleft
    cases hleft
  · have hsame : (flushBatch ⟨newYear, .failed, fun _ => newYear, fun _ => true⟩ sampleResults
        processedRows).1.rows.all
          (fun r => r.2.status = EmailMessageStatus.processed.asI32) = true := by decide
    have := List.all_eq_true.1 hsame _ (Table.get?_eq_some.1 hrow)
    rw [hst] at this
    exact absurd this (by decide)

end Ses
