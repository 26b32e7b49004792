import SesSender.Spec.Receiver

/-! `bulk_update_all` against the batch it was built from. The values bound to a
ladder are the ones of the requests its branches were written for, so a row gets
the first status, message id and error the batch has for its id. -/

namespace Ses

/-- The status of the first request of the batch with the id. -/
def firstStatus (batch : List EmailRequest) (id : Int) : Option Int :=
  (batch.find? fun r => r.rowid = some id).map (·.status)

/-- The text of the first request of the batch with the id that has one. -/
def firstText (get : EmailRequest → Option String) (batch : List EmailRequest) (id : Int) :
    Option String :=
  batch.findSome? fun r => if r.rowid = some id then get r else none

/-! ## What the loop builds -/

def statusPairs (batch : List EmailRequest) : List (Int32 × Int) :=
  batch.filterMap fun r => r.id.map fun id => (id, r.status)

def textPairs (get : EmailRequest → Option String) (batch : List EmailRequest) :
    List (Int32 × String) :=
  batch.filterMap fun r => r.id.bind fun id => (get r).map fun s => (id, s)

theorem foldl_add (batch : List EmailRequest) (p : BulkParts) :
    batch.foldl BulkParts.add p =
      { statusCases := p.statusCases ++ (statusPairs batch).map Prod.fst
        statusBinds := p.statusBinds ++ (statusPairs batch).map Prod.snd
        messageIdCases := p.messageIdCases ++ (textPairs (·.messageId) batch).map Prod.fst
        messageIdBinds := p.messageIdBinds ++ (textPairs (·.messageId) batch).map Prod.snd
        errorCases := p.errorCases ++ (textPairs (·.error) batch).map Prod.fst
        errorBinds := p.errorBinds ++ (textPairs (·.error) batch).map Prod.snd } := by
  induction batch generalizing p with
  | nil => simp [statusPairs, textPairs]
  | cons r batch ih =>
    rw [List.foldl_cons, ih]
    unfold BulkParts.add statusPairs textPairs
    cases hid : r.id with
    | none => simp [hid]
    | some id => cases hm : r.messageId <;> cases he : r.error <;> simp [hid, hm, he]

/-! ## What a ladder yields -/

theorem caseLadder_pairs {β : Type} (f : β → SqlValue) (pairs : List (Int32 × β))
    (rest : List SqlValue) (id : Int) (old : SqlValue) :
    caseLadder id old (pairs.map Prod.fst) (pairs.map (fun p => f p.2) ++ rest) =
      ((pairs.find? fun p => p.1.toInt = id).map fun p => f p.2).getD old := by
  induction pairs with
  | nil => rfl
  | cons p pairs ih =>
    by_cases hp : p.1.toInt = id
    · simp [caseLadder, hp]
    · simp [caseLadder, hp, ih]

theorem find_statusPairs (batch : List EmailRequest) (id : Int) :
    ((statusPairs batch).find? fun p => p.1.toInt = id).map Prod.snd = firstStatus batch id := by
  unfold statusPairs firstStatus
  induction batch with
  | nil => rfl
  | cons r batch ih =>
    cases hid : r.id with
    | none => simpa [hid, EmailRequest.rowid] using ih
    | some i =>
      by_cases hi : i.toInt = id
      · simp [hid, hi, EmailRequest.rowid]
      · simpa [hid, hi, EmailRequest.rowid] using ih

theorem find_textPairs (get : EmailRequest → Option String) (batch : List EmailRequest) (id : Int) :
    ((textPairs get batch).find? fun p => p.1.toInt = id).map Prod.snd = firstText get batch id := by
  unfold textPairs firstText
  induction batch with
  | nil => rfl
  | cons r batch ih =>
    cases hid : r.id with
    | none => simpa [hid, EmailRequest.rowid] using ih
    | some i =>
      cases hg : get r with
      | none => simpa [hid, hg, EmailRequest.rowid] using ih
      | some s =>
        by_cases hi : i.toInt = id
        · simp [hid, hg, hi, EmailRequest.rowid]
        · simpa [hid, hg, hi, EmailRequest.rowid] using ih

theorem ladder_status (batch : List EmailRequest) (rest : List SqlValue) (id old : Int) :
    (caseLadder id (.int old) ((statusPairs batch).map Prod.fst)
      ((statusPairs batch).map (fun p => SqlValue.int p.2) ++ rest)).toInteger =
      some ((firstStatus batch id).getD old) := by
  rw [caseLadder_pairs, ← find_statusPairs]
  cases (statusPairs batch).find? fun p => p.1.toInt = id <;> rfl

theorem ladder_text (get : EmailRequest → Option String) (batch : List EmailRequest)
    (rest : List SqlValue) (id : Int) (old : Option String) :
    (caseLadder id (.ofText old) ((textPairs get batch).map Prod.fst)
      ((textPairs get batch).map (fun p => SqlValue.text p.2) ++ rest)).toText =
      (firstText get batch id).or old := by
  rw [caseLadder_pairs, ← find_textPairs]
  cases (textPairs get batch).find? fun p => p.1.toInt = id with
  | none => cases old <;> rfl
  | some p => rfl

/-! ## The statement -/

/-- A row of the batch after the statement. -/
def bulkWritten (now : Instant) (batch : List EmailRequest) (id : Int) (row : RequestRow) :
    RequestRow :=
  { row with
    status := (firstStatus batch id).getD row.status
    messageId := (firstText (·.messageId) batch id).or row.messageId
    error := (firstText (·.error) batch id).or row.error
    updatedAt := now.stamp }

/-- The values bound to a ladder are the ones behind it in the list. -/
theorem exec_pairs (ss : List (Int32 × Int)) (ms es : List (Int32 × String)) (ids : List Int32)
    (now : Instant) (t : Table RequestRow) :
    let sv := ss.map fun p => SqlValue.int p.2
    let mv := ms.map fun p => SqlValue.text p.2
    let ev := es.map fun p => SqlValue.text p.2
    let iv := ids.map fun i => SqlValue.int i.toInt
    let status (id : Int) (row : RequestRow) :=
      (caseLadder id (.int row.status) (ss.map Prod.fst) (sv ++ (mv ++ (ev ++ iv)))).toInteger
    BulkSql.exec ⟨ss.map Prod.fst, ms.map Prod.fst, es.map Prod.fst, ids.length⟩
        (BulkParts.binds ⟨ss.map Prod.fst, ms.map Prod.fst, es.map Prod.fst, ss.map Prod.snd,
          ms.map Prod.snd, es.map Prod.snd⟩ ids) now t =
      if t.rows.any fun r => .int r.1 ∈ iv ∧ status r.1 r.2 = none then none
      else some (t.update (fun id _ => .int id ∈ iv) fun id row =>
        { row with
          status := (status id row).getD row.status
          messageId := (caseLadder id (.ofText row.messageId) (ms.map Prod.fst)
            (mv ++ (ev ++ iv))).toText
          error := (caseLadder id (.ofText row.error) (es.map Prod.fst) (ev ++ iv)).toText
          updatedAt := now.stamp }) := by
  intro sv mv ev iv status
  have hb : BulkParts.binds ⟨ss.map Prod.fst, ms.map Prod.fst, es.map Prod.fst, ss.map Prod.snd,
      ms.map Prod.snd, es.map Prod.snd⟩ ids = sv ++ (mv ++ (ev ++ iv)) := by
    simp [BulkParts.binds, sv, mv, ev, iv, Function.comp_def]
  have h1 : (sv ++ (mv ++ (ev ++ iv))).drop (ss.map Prod.fst).length = mv ++ (ev ++ iv) :=
    List.drop_left' (by simp [sv])
  have h2 : (mv ++ (ev ++ iv)).drop (ms.map Prod.fst).length = ev ++ iv :=
    List.drop_left' (by simp [mv])
  have h3 : (ev ++ iv).drop (es.map Prod.fst).length = iv := List.drop_left' (by simp [ev])
  have h4 : iv.take ids.length = iv := List.take_of_length_le (by simp [iv])
  simp only [BulkSql.exec, hb, h1, h2, h3, h4, status]

theorem int_mem_ids (batch : List EmailRequest) (id : Int) : (SqlValue.int id ∈
    (batch.filterMap (·.id)).map fun i => SqlValue.int i.toInt) ↔ some id ∈ batch.map (·.rowid) := by
  simp only [List.mem_map, List.mem_filterMap, SqlValue.int.injEq, EmailRequest.rowid,
    Option.map_eq_some_iff]
  refine ⟨?_, ?_⟩
  · rintro ⟨i, ⟨r, hr, hi⟩, rfl⟩; exact ⟨r, hr, i, hi, rfl⟩
  · rintro ⟨r, hr, i, hi, rfl⟩; exact ⟨i, ⟨r, hr, hi⟩, rfl⟩

/-- With an id in the batch the statement is run, and it never fails. -/
theorem bulkUpdateAll_eq (now : Instant) {batch : List EmailRequest}
    (hids : batch.filterMap (·.id) ≠ []) (t : Table RequestRow) :
    bulkUpdateAll now batch t =
      some (t.update (fun id _ => some id ∈ batch.map (·.rowid)) (bulkWritten now batch)) := by
  have hparts : BulkParts.ofBatch batch = _ := foldl_add batch BulkParts.init
  simp only [BulkParts.init, List.nil_append] at hparts
  have hne : (batch.filterMap (·.id)).isEmpty = false := by simpa using hids
  simp only [bulkUpdateAll, hne, hparts, exec_pairs, ladder_status, ladder_text, int_mem_ids]
  rw [if_neg (by simp), if_neg (by simp)]
  rfl

theorem bulkUpdateAll_spec (now : Instant) (batch : List EmailRequest) (t : Table RequestRow) :
    ∃ t', bulkUpdateAll now batch t = some t' ∧ t'.seq = t.seq ∧
      ∀ id, t'.get? id = (t.get? id).map fun row =>
        if some id ∈ batch.map (·.rowid) then bulkWritten now batch id row else row := by
  by_cases hemp : batch.filterMap (·.id) = []
  · refine ⟨t, by simp [bulkUpdateAll, hemp], rfl, fun id => ?_⟩
    have hno : ¬ some id ∈ batch.map (·.rowid) := by rw [← int_mem_ids, hemp]; simp
    simp [hno]
  · refine ⟨_, bulkUpdateAll_eq now hemp t, rfl, fun id => ?_⟩
    simp only [Table.get?_update, decide_eq_true_eq]

section

variable {now : Instant} {batch : List EmailRequest} {t t' : Table RequestRow}

theorem seq_bulkUpdateAll (h : bulkUpdateAll now batch t = some t') : t'.seq = t.seq := by
  obtain ⟨t₁, ht₁, hseq, -⟩ := bulkUpdateAll_spec now batch t
  obtain rfl := Option.some.inj (ht₁.symm.trans h)
  exact hseq

theorem get?_bulkUpdateAll (h : bulkUpdateAll now batch t = some t') (id : Int) :
    t'.get? id = (t.get? id).map fun row =>
      if some id ∈ batch.map (·.rowid) then bulkWritten now batch id row else row := by
  obtain ⟨t₁, ht₁, -, hget⟩ := bulkUpdateAll_spec now batch t
  obtain rfl := Option.some.inj (ht₁.symm.trans h)
  exact hget id

end

end Ses
