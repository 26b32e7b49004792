import SesSender.Lib.Lists
import SesSender.Proofs.BulkText

/-! The values bound to the bulk `UPDATE`: the `n`-th value is the one the
`n`-th `?` was written for. Read back and run on a table, the text therefore
does what `bulkUpdateAll` does. -/

namespace Ses

open Calendar Sql

variable {batch : List EmailRequest} {value : EmailRequest → Option SqlValue}

/-! ## Which value belongs to which branch -/

def statusValue (req : EmailRequest) : Option SqlValue := some (.int req.status)

def textValue (get : EmailRequest → Option String) (req : EmailRequest) : Option SqlValue :=
  (get req).map SqlValue.text

def idValue (req : EmailRequest) : Option SqlValue := req.rowid.map SqlValue.int

/-- The requests of the batch that have an id and the value. -/
def writers (value : EmailRequest → Option SqlValue) (batch : List EmailRequest) :
    List EmailRequest :=
  batch.filter fun req => req.id.isSome && (value req).isSome

/-- The branches are those of the requests that have the value, in order, and
each is bound to the value of its request. -/
def Aligned (binds : List SqlValue) (value : EmailRequest → Option SqlValue)
    (batch : List EmailRequest) (branches : List Branch) : Prop :=
  List.Forall₂ (fun req b => req.rowid = some b.value ∧ binds[b.param]? = value req)
    (writers value batch) branches

def pairsOf (value : EmailRequest → Option SqlValue) (batch : List EmailRequest) :
    List (Int32 × SqlValue) :=
  batch.filterMap fun req => req.id.bind fun id => (value req).map fun v => (id, v)

theorem lift_statusPairs (batch : List EmailRequest) :
    (statusPairs batch).map (fun p => (p.1, SqlValue.int p.2)) = pairsOf statusValue batch := by
  rw [statusPairs, pairsOf, List.map_filterMap]
  congr 1
  funext req
  cases req.id <;> rfl

theorem lift_textPairs (get : EmailRequest → Option String) (batch : List EmailRequest) :
    (textPairs get batch).map (fun p => (p.1, SqlValue.text p.2)) =
      pairsOf (textValue get) batch := by
  rw [textPairs, pairsOf, List.map_filterMap]
  congr 1
  funext req
  unfold textValue
  cases req.id <;> cases get req <;> rfl

theorem lift_ids (batch : List EmailRequest) :
    (batch.filterMap (·.id)).map (fun id => (id, SqlValue.int id.toInt)) =
      pairsOf idValue batch := by
  rw [pairsOf, List.map_filterMap]
  congr 1
  funext req
  unfold idValue EmailRequest.rowid
  cases req.id <;> rfl

/-- The branches are those of the pairs, each bound to the value of its pair. -/
def BoundTo (binds : List SqlValue) (pairs : List (Int32 × SqlValue)) (branches : List Branch) :
    Prop :=
  List.Forall₂ (fun p b => b.value = p.1.toInt ∧ binds[b.param]? = some p.2) pairs branches

/-- Behind the values of the ladders before it, a ladder finds its own. -/
theorem branches_bound (pairs : List (Int32 × SqlValue)) (before after : List SqlValue) :
    BoundTo (before ++ (pairs.map Prod.snd ++ after)) pairs
      (branchesFrom before.length (pairs.map Prod.fst)) := by
  unfold BoundTo
  induction pairs generalizing before with
  | nil => exact .nil
  | cons p pairs ih =>
    have hrest := ih (before ++ [p.2])
    rw [List.length_append, List.length_singleton, List.append_assoc] at hrest
    simp only [List.map_cons, branchesFrom_cons]
    refine .cons ⟨rfl, ?_⟩ hrest
    simp

/-- The same, request by request. -/
theorem BoundTo.aligned {binds : List SqlValue} {branches : List Branch}
    (h : BoundTo binds (pairsOf value batch) branches) : Aligned binds value batch branches := by
  unfold Aligned writers
  unfold BoundTo at h
  unfold pairsOf at h
  induction batch generalizing branches with
  | nil => cases h; exact .nil
  | cons req batch ih =>
    cases hid : req.id with
    | none =>
      rw [List.filterMap_cons_none (by rw [hid]; rfl)] at h
      rw [List.filter_cons_of_neg (by simp [hid])]
      exact ih h
    | some id =>
      cases hv : value req with
      | none =>
        rw [List.filterMap_cons_none (by rw [hid, hv]; rfl)] at h
        rw [List.filter_cons_of_neg (by simp [hv])]
        exact ih h
      | some v =>
        rw [List.filterMap_cons_some (by rw [hid, hv]; rfl)] at h
        rw [List.filter_cons_of_pos (by simp [hid, hv])]
        obtain ⟨b, bs, ⟨hval, hbind⟩, hrest, rfl⟩ := List.forall₂_cons_left_iff.1 h
        refine .cons ⟨?_, by rw [hbind, hv]⟩ (ih hrest)
        rw [EmailRequest.rowid, hid, hval]
        rfl

theorem params_branchesFrom (n : ℕ) (ids : List Int32) :
    (branchesFrom n ids).map Branch.param = List.range' n ids.length := by
  induction ids generalizing n with
  | nil => rfl
  | cons id ids ih => rw [branchesFrom_cons, List.map_cons, ih]; rfl

/-! ## The statement that is sent -/

/-- The ids of the ladders and of the list, taken from the batch. -/
def batchUpdate (batch : List EmailRequest) : Update :=
  builtUpdate ((pairsOf statusValue batch).map Prod.fst)
    ((pairsOf (textValue (·.messageId)) batch).map Prod.fst)
    ((pairsOf (textValue (·.error)) batch).map Prod.fst) ((pairsOf idValue batch).map Prod.fst)

def batchBinds (batch : List EmailRequest) : List SqlValue :=
  (pairsOf statusValue batch).map Prod.snd ++
    ((pairsOf (textValue (·.messageId)) batch).map Prod.snd ++
    ((pairsOf (textValue (·.error)) batch).map Prod.snd ++ (pairsOf idValue batch).map Prod.snd))

theorem fst_pairsOf_id (batch : List EmailRequest) :
    (pairsOf idValue batch).map Prod.fst = batch.filterMap (·.id) := by
  rw [← lift_ids, List.map_map]
  exact List.map_id _

theorem ofBatch_text (batch : List EmailRequest) : BulkText.ofBatch batch =
    { statusCases := ladderText ((pairsOf statusValue batch).map Prod.fst)
      statusBinds := (statusPairs batch).map Prod.snd
      messageIdCases := ladderText ((pairsOf (textValue (·.messageId)) batch).map Prod.fst)
      messageIdBinds := (textPairs (·.messageId) batch).map Prod.snd
      errorCases := ladderText ((pairsOf (textValue (·.error)) batch).map Prod.fst)
      errorBinds := (textPairs (·.error) batch).map Prod.snd } := by
  have h := foldl_addText batch BulkText.init
  simp only [BulkText.init, List.nil_append, String.empty_append] at h
  rw [← lift_statusPairs, ← lift_textPairs, ← lift_textPairs, List.map_map, List.map_map,
    List.map_map]
  exact h

theorem binds_ofBatch (batch : List EmailRequest) :
    (BulkText.ofBatch batch).binds (batch.filterMap (·.id)) = batchBinds batch := by
  rw [ofBatch_text, batchBinds, ← lift_statusPairs, ← lift_textPairs, ← lift_textPairs,
    ← lift_ids]
  simp [BulkText.binds, Function.comp_def]

theorem bulkStatement_eq_none : bulkStatement batch = none ↔ ∀ req ∈ batch, req.id = none := by
  unfold bulkStatement
  cases batch with
  | nil => simp
  | cons req batch => simp

theorem length_batchBinds (batch : List EmailRequest) : (batchBinds batch).length =
    (pairsOf statusValue batch).length + (pairsOf (textValue (·.messageId)) batch).length +
      (pairsOf (textValue (·.error)) batch).length + (pairsOf idValue batch).length := by
  simp only [batchBinds, List.length_append, List.length_map]
  omega

/-- What is sent has a `?` for every value and stands for `batchUpdate`. -/
theorem bulkStatement_spec {sql : String} {binds : List SqlValue}
    (h : bulkStatement batch = some (sql, binds)) :
    binds = batchBinds batch ∧ placeholders sql = binds.length ∧
      parse sql = some (batchUpdate batch) := by
  unfold bulkStatement at h
  split at h
  · cases h
  · simp only at h
    split at h
    · cases h
    · rename_i hids
      have hne : (pairsOf idValue batch).map Prod.fst ≠ [] := by
        rw [fst_pairsOf_id]
        simpa using hids
      obtain ⟨rfl, rfl⟩ := Prod.mk.inj (Option.some.inj h)
      have hlex := lexes_sql ((pairsOf statusValue batch).map Prod.fst)
        ((pairsOf (textValue (·.messageId)) batch).map Prod.fst)
        ((pairsOf (textValue (·.error)) batch).map Prod.fst) hne
        ((statusPairs batch).map Prod.snd) ((textPairs (·.messageId) batch).map Prod.snd)
        ((textPairs (·.error) batch).map Prod.snd)
      rw [← ofBatch_text, fst_pairsOf_id] at hlex
      refine ⟨binds_ofBatch batch, ?_, ?_⟩
      · rw [hlex.placeholders_eq, binds_ofBatch, length_batchBinds, ← fst_pairsOf_id]
        simp only [List.length_map]
      · rw [parse, hlex.tokens_eq, batchUpdate, fst_pairsOf_id]
        refine parseTokens_tokens (by simp [builtUpdate, bulkUpdate]) ?_
        simpa [builtUpdate, bulkUpdate, List.range'_eq_nil_iff] using hids

/-- The ladders and the list of a statement are bound to what the batch has for them. -/
structure BatchBound (batch : List EmailRequest) (binds : List SqlValue)
    (ss ms es ks : List Branch) : Prop where
  status : BoundTo binds (pairsOf statusValue batch) ss
  messageId : BoundTo binds (pairsOf (textValue (·.messageId)) batch) ms
  error : BoundTo binds (pairsOf (textValue (·.error)) batch) es
  ids : BoundTo binds (pairsOf idValue batch) ks

theorem batchUpdate_bound (batch : List EmailRequest) : ∃ ss ms es ks,
    batchUpdate batch = bulkUpdate ss ms es (ks.map Branch.param) ∧
      BatchBound batch (batchBinds batch) ss ms es ks := by
  have hs := branches_bound (pairsOf statusValue batch) []
    ((pairsOf (textValue (·.messageId)) batch).map Prod.snd ++
      ((pairsOf (textValue (·.error)) batch).map Prod.snd ++ (pairsOf idValue batch).map Prod.snd))
  have hm := branches_bound (pairsOf (textValue (·.messageId)) batch)
    ((pairsOf statusValue batch).map Prod.snd)
    ((pairsOf (textValue (·.error)) batch).map Prod.snd ++ (pairsOf idValue batch).map Prod.snd)
  have he := branches_bound (pairsOf (textValue (·.error)) batch)
    ((pairsOf statusValue batch).map Prod.snd ++
      (pairsOf (textValue (·.messageId)) batch).map Prod.snd) ((pairsOf idValue batch).map Prod.snd)
  have hk := branches_bound (pairsOf idValue batch)
    ((pairsOf statusValue batch).map Prod.snd ++
      ((pairsOf (textValue (·.messageId)) batch).map Prod.snd ++
      (pairsOf (textValue (·.error)) batch).map Prod.snd)) []
  simp only [List.nil_append, List.append_nil, List.append_assoc] at hs hm he hk
  refine ⟨_, _, _, _, ?_, hs, hm, he, hk⟩
  simp only [batchUpdate, builtUpdate, params_branchesFrom, List.length_map, List.length_nil,
    List.length_append, Nat.add_assoc]

/-! ## What it does -/

section Run

variable (now : Instant) (id : Int) (row : RequestRow)

/-- What an expression of the statement yields on a row. -/
def evalOn (binds : List SqlValue) (e : Expr) : SqlValue :=
  e.eval SqlValue.int (fun k => binds.getD k .null) (.text now.stamp) (row.column id)

variable {binds : List SqlValue} {branches : List Branch}

/-- A ladder yields the value of the first pair with the id. -/
theorem BoundTo.eval {pairs : List (Int32 × SqlValue)} (column : String)
    (h : BoundTo binds pairs branches) : evalOn now id row binds (.case "id" branches column) =
      ((pairs.find? fun p => p.1.toInt = id).map Prod.snd).getD (row.column id column) := by
  have hpairs : List.Forall₂ (fun p b => b.value = p.1 ∧ binds.getD b.param .null = p.2)
      (pairs.map fun p => (p.1.toInt, p.2)) branches := by
    refine List.forall₂_map_left_iff.2 (h.imp fun p b hpb => ⟨hpb.1, ?_⟩)
    rw [List.getD_eq_getElem?_getD, hpb.2]
    rfl
  rw [evalOn, Expr.eval_case _ _ _ _ hpairs, List.find?_map, Option.map_map]
  have hid : ∀ p : Int32 × SqlValue, (row.column id "id" = SqlValue.int p.1.toInt) ↔
      p.1.toInt = id := by
    intro p
    change SqlValue.int id = _ ↔ _
    rw [SqlValue.int.injEq, eq_comm]
  simp only [Function.comp_def, hid]

theorem find_status (batch : List EmailRequest) :
    ((pairsOf statusValue batch).find? fun p => p.1.toInt = id).map Prod.snd =
      (firstStatus batch id).map SqlValue.int := by
  rw [← lift_statusPairs, List.find?_map, Option.map_map, ← find_statusPairs, Option.map_map]
  rfl

theorem find_text (get : EmailRequest → Option String) (batch : List EmailRequest) :
    ((pairsOf (textValue get) batch).find? fun p => p.1.toInt = id).map Prod.snd =
      (firstText get batch id).map SqlValue.text := by
  rw [← lift_textPairs, List.find?_map, Option.map_map, ← find_textPairs, Option.map_map]
  rfl

/-- One assignment of the statement; the values are read from `row`. -/
def assignOn (binds : List SqlValue) (acc : RequestRow) (a : Assignment) : Option RequestRow :=
  acc.assign a.column (evalOn now id row binds a.value)

/-- A clause left out assigns what the column has. -/
theorem foldlM_clause (column : String) (acc : RequestRow)
    (hsame : acc.assign column (row.column id column) = some acc) :
    (ladderClause column branches).foldlM (assignOn now id row binds) acc =
      acc.assign column (evalOn now id row binds (.case "id" branches column)) := by
  unfold ladderClause
  cases hemp : branches.isEmpty with
  | true =>
    obtain rfl := List.isEmpty_iff.1 hemp
    exact hsame.symm
  | false =>
    simp only [Bool.false_eq_true, if_false, List.foldlM_cons, List.foldlM_nil]
    exact bind_pure _

theorem toText_ofText (s : Option String) : (SqlValue.ofText s).toText = s := by
  cases s <;> rfl

theorem toText_getD (found old : Option String) :
    ((found.map SqlValue.text).getD (.ofText old)).toText = found.or old := by
  cases found with
  | none => exact toText_ofText old
  | some s => rfl

theorem clause_messageId (h : BoundTo binds (pairsOf (textValue (·.messageId)) batch) branches)
    {acc : RequestRow} (hacc : acc.messageId = row.messageId) :
    (ladderClause "message_id" branches).foldlM (assignOn now id row binds) acc =
      some { acc with messageId := (firstText (·.messageId) batch id).or row.messageId } := by
  have hassign : ∀ v, acc.assign "message_id" v = some { acc with messageId := v.toText } :=
    fun _ => rfl
  have hcolumn : row.column id "message_id" = .ofText row.messageId := rfl
  rw [foldlM_clause, hassign, h.eval, find_text, hcolumn, toText_getD]
  rw [hassign, hcolumn, toText_ofText, ← hacc]

theorem clause_error (h : BoundTo binds (pairsOf (textValue (·.error)) batch) branches)
    {acc : RequestRow} (hacc : acc.error = row.error) :
    (ladderClause "error" branches).foldlM (assignOn now id row binds) acc =
      some { acc with error := (firstText (·.error) batch id).or row.error } := by
  have hassign : ∀ v, acc.assign "error" v = some { acc with error := v.toText } := fun _ => rfl
  have hcolumn : row.column id "error" = .ofText row.error := rfl
  rw [foldlM_clause, hassign, h.eval, find_text, hcolumn, toText_getD]
  rw [hassign, hcolumn, toText_ofText, ← hacc]

theorem assign_status (h : BoundTo binds (pairsOf statusValue batch) branches) :
    assignOn now id row binds row ⟨"status", .case "id" branches "status"⟩ =
      some { row with status := (firstStatus batch id).getD row.status } := by
  have hassign : ∀ n, row.assign "status" (.int n) = some { row with status := n } := fun _ => rfl
  have heval : evalOn now id row binds (.case "id" branches "status") =
      .int ((firstStatus batch id).getD row.status) := by
    rw [h.eval, find_status]
    cases firstStatus batch id <;> rfl
  rw [assignOn, heval, hassign]

variable {ss ms es ks : List Branch}

/-- The statement makes of a row what `bulkUpdateAll` makes of it. -/
theorem BatchBound.writeRow_eq (h : BatchBound batch binds ss ms es ks) :
    writeRow (bulkUpdate ss ms es (ks.map Branch.param)) (fun k => binds.getD k .null) now id row =
      some (bulkWritten now batch id row) := by
  have hsets : writeRow (bulkUpdate ss ms es (ks.map Branch.param)) (fun k => binds.getD k .null)
      now id row = (⟨"status", .case "id" ss "status"⟩ :: (ladderClause "message_id" ms ++
        (ladderClause "error" es ++ [⟨"updated_at", .now⟩]))).foldlM (assignOn now id row binds)
          row := rfl
  have hmessage : ∀ status, (ladderClause "message_id" ms).foldlM (assignOn now id row binds)
      { row with status } = some { row with
        status, messageId := (firstText (·.messageId) batch id).or row.messageId } :=
    fun _ => clause_messageId now id row h.messageId rfl
  have herror : ∀ status messageId, (ladderClause "error" es).foldlM (assignOn now id row binds)
      { row with status, messageId } = some { row with
        status, messageId, error := (firstText (·.error) batch id).or row.error } :=
    fun _ _ => clause_error now id row h.error rfl
  simp only [hsets, List.foldlM_cons, assign_status now id row h.status, Option.bind_eq_bind,
    Option.bind_some, List.foldlM_append, hmessage, herror]
  rfl

theorem BatchBound.selects_eq (h : BatchBound batch binds ss ms es ks) :
    (bulkUpdate ss ms es (ks.map Branch.param)).selects (fun k => binds.getD k .null)
      (row.column id) = decide (some id ∈ batch.map (·.rowid)) := by
  have hkeys : (ks.map Branch.param).map (fun k => binds.getD k .null) =
      (pairsOf idValue batch).map Prod.snd := by
    rw [List.map_map]
    refine (Lists.forall₂_map_eq h.ids fun p b hpb => ?_).symm
    rw [Function.comp_apply, List.getD_eq_getElem?_getD, hpb.2]
    rfl
  have hvalues : (pairsOf idValue batch).map Prod.snd =
      (batch.filterMap (·.id)).map fun i => SqlValue.int i.toInt := by
    rw [← lift_ids, List.map_map]
    rfl
  rw [Update.selects, Bool.eq_iff_iff, decide_eq_true_eq, decide_eq_true_eq, ← int_mem_ids,
    ← hvalues, ← hkeys]
  rfl

end Run

theorem bulkUpdate_columns (ss ms es : List Branch) (keys : List ℕ) :
    (bulkUpdate ss ms es keys).columns.any (fun c => c ∉ requestColumns) = false := by
  unfold bulkUpdate ladderClause
  cases ms.isEmpty <;> cases es.isEmpty <;> rfl

variable {binds : List SqlValue} {ss ms es ks : List Branch}

theorem BatchBound.exec (h : BatchBound batch binds ss ms es ks) (now : Instant)
    (t : Table RequestRow) :
    execUpdate (bulkUpdate ss ms es (ks.map Branch.param)) binds now t =
      some (t.update (fun id _ => some id ∈ batch.map (·.rowid)) (bulkWritten now batch)) := by
  have htable : (bulkUpdate ss ms es (ks.map Branch.param)).table = "email_requests" := rfl
  simp only [execUpdate, htable, bulkUpdate_columns, h.writeRow_eq, h.selects_eq,
    Option.isNone_some, Bool.and_false, Option.getD_some]
  rw [if_neg (by simp), if_neg (by simp)]

/-- The text does what the statement means. -/
theorem bulkUpdateText_eq (now : Instant) (batch : List EmailRequest) (t : Table RequestRow) :
    bulkUpdateText now batch t = bulkUpdateAll now batch t := by
  unfold bulkUpdateText
  cases hst : bulkStatement batch with
  | none =>
    have hids : batch.filterMap (·.id) = [] :=
      List.filterMap_eq_nil_iff.2 (bulkStatement_eq_none.1 hst)
    simp [bulkUpdateAll, hids]
  | some p =>
    obtain ⟨sql, binds⟩ := p
    obtain ⟨rfl, -, hparse⟩ := bulkStatement_spec hst
    obtain ⟨ss, ms, es, ks, hupdate, hbound⟩ := batchUpdate_bound batch
    have hids : batch.filterMap (·.id) ≠ [] := by
      intro hnil
      rw [bulkStatement_eq_none.2 (List.filterMap_eq_nil_iff.1 hnil)] at hst
      cases hst
    simp only [hparse, Option.bind_some]
    rw [hupdate, hbound.exec, bulkUpdateAll_eq now hids]

/-! ## The whole statement -/

theorem Aligned.keys (h : Aligned binds idValue batch ks) :
    List.Forall₂ (fun req k => binds[k]? = req.rowid.map SqlValue.int)
      (batch.filter fun req => req.id.isSome) (ks.map Branch.param) := by
  have hwriters : writers idValue batch = batch.filter fun req => req.id.isSome := by
    refine List.filter_congr fun req _ => ?_
    unfold idValue EmailRequest.rowid
    cases req.id <;> rfl
  rw [← hwriters]
  exact List.forall₂_map_right_iff.2 (h.imp fun req b hreq => hreq.2)

theorem firstStatus_of_mem {id : Int} (h : some id ∈ batch.map (·.rowid)) :
    ∃ status, firstStatus batch id = some status := by
  obtain ⟨req, hreq, hid⟩ := List.mem_map.1 h
  have hfound : (batch.find? fun r => r.rowid = some id).isSome := by
    rw [List.find?_isSome]
    exact ⟨req, hreq, by simpa using hid⟩
  obtain ⟨first, hfirst⟩ := Option.isSome_iff_exists.1 hfound
  exact ⟨first.status, by rw [firstStatus, hfirst]; rfl⟩

/-- The text has a `?` for every value, every `?` is bound to the value of the
request it was written for, and the statement writes the first status, message
id and error the batch has for an id. -/
theorem bulk_text_exact (batch : List EmailRequest) :
    (bulkStatement batch = none ↔ ∀ req ∈ batch, req.id = none) ∧
    (∀ sql binds, bulkStatement batch = some (sql, binds) → placeholders sql = binds.length ∧
      ∃ ss ms es keys, parse sql = some (bulkUpdate ss ms es keys) ∧
        Aligned binds statusValue batch ss ∧
        Aligned binds (textValue (·.messageId)) batch ms ∧
        Aligned binds (textValue (·.error)) batch es ∧
        List.Forall₂ (fun req k => binds[k]? = req.rowid.map SqlValue.int)
          (batch.filter fun req => req.id.isSome) keys) ∧
    ∀ now t, ∃ t', bulkUpdateText now batch t = some t' ∧
      (∀ id, some id ∉ batch.map (·.rowid) → t'.get? id = t.get? id) ∧
      ∀ id row, some id ∈ batch.map (·.rowid) → t.get? id = some row →
        ∃ status, firstStatus batch id = some status ∧ t'.get? id = some
          { row with
            status
            messageId := (firstText (·.messageId) batch id).or row.messageId
            error := (firstText (·.error) batch id).or row.error
            updatedAt := now.stamp } := by
  refine ⟨bulkStatement_eq_none, fun sql binds hst => ?_, fun now t => ?_⟩
  · obtain ⟨rfl, hcount, hparse⟩ := bulkStatement_spec hst
    obtain ⟨ss, ms, es, ks, hupdate, hbound⟩ := batchUpdate_bound batch
    rw [hupdate] at hparse
    exact ⟨hcount, ss, ms, es, _, hparse, hbound.status.aligned, hbound.messageId.aligned,
      hbound.error.aligned, hbound.ids.aligned.keys⟩
  · obtain ⟨t', ht', -, hget⟩ := bulkUpdateAll_spec now batch t
    refine ⟨t', (bulkUpdateText_eq now batch t).trans ht', fun id hid => ?_, fun id row hid hrow => ?_⟩
    · rw [hget]
      simp only [hid, if_false, Option.map_id']
    · obtain ⟨status, hstatus⟩ := firstStatus_of_mem hid
      refine ⟨status, hstatus, ?_⟩
      rw [hget, hrow, Option.map_some, if_pos hid, bulkWritten, hstatus]
      rfl

/-- Two mails sent, the first again with an error, and one request that was never saved. -/
def mixedBatch : List EmailRequest :=
  [⟨some 1, none, none, "", "", "", none, 2, none, some "m-1"⟩,
    ⟨none, none, none, "", "", "", none, 2, none, some "m-0"⟩,
    ⟨some 2, none, none, "", "", "", none, 2, none, some "m-2"⟩,
    ⟨some 1, none, none, "", "", "", none, 3, some "late", none⟩]

theorem bulk_text_exact_mixed : ∃ sql binds, bulkStatement mixedBatch = some (sql, binds) ∧
    placeholders sql = binds.length := by
  cases hst : bulkStatement mixedBatch with
  | none => exact absurd ((bulk_text_exact mixedBatch).1.1 hst) (by decide)
  | some p => exact ⟨p.1, p.2, rfl, ((bulk_text_exact mixedBatch).2.1 p.1 p.2 hst).1⟩

end Ses
