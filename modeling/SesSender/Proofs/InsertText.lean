import SesSender.Proofs.Inserts
import SesSender.Spec.InsertText

/-! The texts of `save_batch` are read back as the statements they were meant to be,
every `?` is bound to the value of its own row, and the statements insert the rows
that `insertChunk` inserts. -/

namespace Ses

open Calendar Sql

/-! ## The groups -/

def EmailContent.group (n : ℕ) : List Sql.Value := [.param n, .param (n + 1), .now]

def EmailRequest.group (n : ℕ) : List Sql.Value :=
  [.param n, .param (n + 1), .param (n + 2), .param (n + 3), .param (n + 4), .now, .now]

/-- The statement the text stands for. -/
def EmailContent.insertStatement (chunkSize : ℕ) : Insert where
  table := "email_contents"
  columns := ["subject", "content", "created_at"]
  rows := rowsFrom EmailContent.group 2 0 chunkSize

def EmailRequest.insertStatement (chunkSize : ℕ) : Insert where
  table := "email_requests"
  columns := ["topic_id", "content_id", "email", "scheduled_at", "status", "created_at", "updated_at"]
  rows := rowsFrom EmailRequest.group 5 0 chunkSize

theorem EmailContent.lexes_insertSql {c : ℕ} (hc : c ≠ 0) :
    Lexes 0 [] (EmailContent.insertSql c).toList (EmailContent.insertStatement c).tokens (c * 2)
      [] := by
  have htable : Lexes 0 [] "INSERT INTO email_contents ".toList
      [.word "INSERT", .word "INTO", .word "email_contents"] 0 [] := ⟨fun _ => rfl, rfl⟩
  have hcolumns : Lexes 0 [] "(subject, content, ".toList
      [.symbol '(', .word "subject", .symbol ',', .word "content", .symbol ','] 0 [] :=
    ⟨fun _ => rfl, rfl⟩
  have hvalues : Lexes 0 [] "created_at) VALUES ".toList
      [.word "created_at", .symbol ')', .word "VALUES"] 0 [] := ⟨fun _ => rfl, rfl⟩
  have hgroup : ∀ n, Lexes n [] "(?, ?, datetime('now'))".toList
      (.symbol '(' :: valuesTokens (EmailContent.group n)) 2 [] := fun n => ⟨fun _ => rfl, rfl⟩
  have htext : EmailContent.insertSql c = "INSERT INTO email_contents " ++ ("(subject, content, " ++
      ("created_at) VALUES " ++
        ", ".intercalate (List.replicate c "(?, ?, datetime('now'))"))) := by
    rw [← String.append_assoc, ← String.append_assoc]
    rfl
  have hall := htable.append rfl (hcolumns.append rfl (hvalues.append rfl (lexes_rows hgroup 0 hc)))
  rw [Nat.zero_add, Nat.zero_add, Nat.zero_add] at hall
  rw [htext, String.toList_append, String.toList_append, String.toList_append]
  exact hall

theorem EmailRequest.lexes_group (n : ℕ) :
    Lexes n [] "(?, ?, ?, ?, ?, datetime('now'), datetime('now'))".toList
      (.symbol '(' :: valuesTokens (EmailRequest.group n)) 5 [] := by
  have hparams : Lexes n [] "(?, ?, ?, ?, ?, ".toList
      [.symbol '(', .param n, .symbol ',', .param (n + 1), .symbol ',', .param (n + 2), .symbol ',',
        .param (n + 3), .symbol ',', .param (n + 4), .symbol ','] 5 [] := ⟨fun _ => rfl, rfl⟩
  have hnow : Lexes (n + 5) [] "datetime('now'), ".toList
      [.word "datetime", .symbol '(', .literal "now", .symbol ')', .symbol ','] 0 [] :=
    ⟨fun _ => rfl, rfl⟩
  have hlast : Lexes (n + 5) [] "datetime('now'))".toList
      [.word "datetime", .symbol '(', .literal "now", .symbol ')', .symbol ')'] 0 [] :=
    ⟨fun _ => rfl, rfl⟩
  exact hparams.append rfl (hnow.append rfl hlast)

theorem EmailRequest.lexes_insertSql {c : ℕ} (hc : c ≠ 0) :
    Lexes 0 [] (EmailRequest.insertSql c).toList (EmailRequest.insertStatement c).tokens (c * 5)
      [] := by
  have htable : Lexes 0 [] "INSERT INTO email_requests ".toList
      [.word "INSERT", .word "INTO", .word "email_requests"] 0 [] := ⟨fun _ => rfl, rfl⟩
  have hcolumns : Lexes 0 [] "(topic_id, content_id, email, ".toList
      [.symbol '(', .word "topic_id", .symbol ',', .word "content_id", .symbol ',', .word "email",
        .symbol ','] 0 [] := ⟨fun _ => rfl, rfl⟩
  have hmore : Lexes 0 [] "scheduled_at, status, created_at, ".toList
      [.word "scheduled_at", .symbol ',', .word "status", .symbol ',', .word "created_at",
        .symbol ','] 0 [] := ⟨fun _ => rfl, rfl⟩
  have hvalues : Lexes 0 [] "updated_at) VALUES ".toList
      [.word "updated_at", .symbol ')', .word "VALUES"] 0 [] := ⟨fun _ => rfl, rfl⟩
  have htext : EmailRequest.insertSql c = "INSERT INTO email_requests " ++
      ("(topic_id, content_id, email, " ++ ("scheduled_at, status, created_at, " ++
        ("updated_at) VALUES " ++ ", ".intercalate
          (List.replicate c "(?, ?, ?, ?, ?, datetime('now'), datetime('now'))")))) := by
    rw [← String.append_assoc, ← String.append_assoc, ← String.append_assoc]
    rfl
  have hall := htable.append rfl (hcolumns.append rfl (hmore.append rfl (hvalues.append rfl
    (lexes_rows EmailRequest.lexes_group 0 hc))))
  rw [Nat.zero_add, Nat.zero_add, Nat.zero_add, Nat.zero_add] at hall
  rw [htext, String.toList_append, String.toList_append, String.toList_append, String.toList_append]
  exact hall

theorem rowsFrom_ne_nil {row : ℕ → List Sql.Value} {m n c : ℕ} (hc : c ≠ 0) :
    rowsFrom row m n c ≠ [] := by
  cases c with
  | zero => exact absurd rfl hc
  | succ c => exact List.cons_ne_nil _ _

theorem EmailContent.parse_insertSql {c : ℕ} (hc : c ≠ 0) :
    parseInsert (EmailContent.insertSql c) = some (EmailContent.insertStatement c) := by
  rw [parseInsert, (EmailContent.lexes_insertSql hc).tokens_eq]
  refine parseInsertTokens_tokens (List.cons_ne_nil _ _) (rowsFrom_ne_nil hc) fun vs hvs => ?_
  obtain ⟨k, rfl⟩ := mem_rowsFrom hvs
  exact List.cons_ne_nil _ _

theorem EmailRequest.parse_insertSql {c : ℕ} (hc : c ≠ 0) :
    parseInsert (EmailRequest.insertSql c) = some (EmailRequest.insertStatement c) := by
  rw [parseInsert, (EmailRequest.lexes_insertSql hc).tokens_eq]
  refine parseInsertTokens_tokens (List.cons_ne_nil _ _) (rowsFrom_ne_nil hc) fun vs hvs => ?_
  obtain ⟨k, rfl⟩ := mem_rowsFrom hvs
  exact List.cons_ne_nil _ _

/-! ## The rows -/

variable {E : Env} {now : Instant}

/-- Behind the values of the groups before it, a group finds its own. -/
theorem getD_binds (before values : List SqlValue) (i : ℕ) :
    (before ++ values).getD (before.length + i) .null = values.getD i .null := by
  rw [List.getD_eq_getElem?_getD, List.getD_eq_getElem?_getD,
    List.getElem?_append_right (Nat.le_add_right _ _), Nat.add_sub_cancel_left]

theorem getD_binds_zero (before values : List SqlValue) :
    (before ++ values).getD before.length .null = values.getD 0 .null :=
  getD_binds before values 0

theorem EmailContent.length_group (n : ℕ) :
    (EmailContent.group n).length = (EmailContent.insertStatement 0).columns.length := rfl

theorem EmailRequest.length_group (n : ℕ) :
    (EmailRequest.group n).length = (EmailRequest.insertStatement 0).columns.length := rfl

theorem EmailContent.length_insertBinds (c : EmailContent) : c.insertBinds.length = 2 := rfl

theorem EmailRequest.length_insertBinds (req : EmailRequest) :
    (req.insertBinds E now).length = 5 := rfl

theorem EmailContent.groupValues_eq (before after : List SqlValue) (c : EmailContent) :
    groupValues now (before ++ (c.insertBinds ++ after)) (EmailContent.group before.length) =
      [.text c.subject, .text c.content, .text now.stamp] := by
  simp only [EmailContent.group, groupValues, List.map_cons, List.map_nil, Sql.Value.eval,
    getD_binds_zero, getD_binds]
  rfl

theorem EmailContent.ofColumns_group (before after : List SqlValue) (c : EmailContent) :
    ContentRow.ofColumns now (columnValue (EmailContent.insertStatement 0).columns
      (groupValues now (before ++ (c.insertBinds ++ after)) (EmailContent.group before.length))) =
      some (c.toRow now) := by
  rw [EmailContent.groupValues_eq]
  rfl

theorem EmailRequest.groupValues_eq (before after : List SqlValue) (req : EmailRequest) :
    groupValues now (before ++ (req.insertBinds E now ++ after))
      (EmailRequest.group before.length) =
      req.insertBinds E now ++ [.text now.stamp, .text now.stamp] := by
  simp only [EmailRequest.group, groupValues, List.map_cons, List.map_nil, Sql.Value.eval,
    getD_binds_zero, getD_binds]
  rfl

theorem EmailRequest.ofColumns_group (before after : List SqlValue) (req : EmailRequest) :
    RequestRow.ofColumns now (columnValue (EmailRequest.insertStatement 0).columns
      (groupValues now (before ++ (req.insertBinds E now ++ after))
        (EmailRequest.group before.length))) = req.toRow E now := by
  rw [EmailRequest.groupValues_eq, EmailRequest.insertBinds, EmailRequest.toRow]
  cases req.topicId with
  | none => rfl
  | some topicId =>
    cases req.contentId with
    | none => rfl
    | some contentId => rfl

/-! ## The statements -/

theorem length_flatMap_binds {ξ : Type} {values : ξ → List SqlValue} {m : ℕ}
    (hlen : ∀ x, (values x).length = m) (xs : List ξ) :
    (xs.flatMap values).length = xs.length * m := by
  induction xs with
  | nil => exact (Nat.zero_mul m).symm
  | cons x xs ih =>
    rw [List.flatMap_cons, List.length_append, hlen, ih, List.length_cons, Nat.add_mul,
      Nat.one_mul, Nat.add_comm]

/-- The checks before the rows pass. -/
theorem insertedRows_rowsFrom {ξ α : Type} {table : String} {columns names : List String}
    {ofColumns : (String → Option SqlValue) → Option α} {row : ℕ → List Sql.Value} {m : ℕ}
    {values : ξ → List SqlValue} {f : ξ → Option α} (hnames : names.any (fun c => c ∉ columns) = false)
    (hwidth : ∀ n, (row n).length = names.length) (hlen : ∀ x, (values x).length = m)
    (heval : ∀ before x after, ofColumns (columnValue names
      (groupValues now (before ++ (values x ++ after)) (row before.length))) = f x) (xs : List ξ) :
    insertedRows table columns ofColumns now ⟨table, names, rowsFrom row m 0 xs.length⟩
      (xs.flatMap values) = xs.mapM f := by
  have hrows : (rowsFrom row m 0 xs.length).any (fun vs => vs.length ≠ names.length) = false := by
    rw [List.any_eq_false]
    intro vs hvs
    obtain ⟨k, rfl⟩ := mem_rowsFrom hvs
    simp [hwidth]
  rw [insertedRows, if_neg]
  · exact mapM_rowsFrom
      (g := fun binds vs => ofColumns (columnValue names (groupValues now binds vs))) hlen heval [] xs
  · simp only [ne_eq, not_true_eq_false, hnames, hrows, Bool.false_eq_true, or_self,
      not_false_eq_true]

theorem EmailContent.insertChunkText_eq (clock : ℕ → Instant) (k : ℕ) {chunk : List EmailContent}
    (hne : chunk ≠ []) (t : Table ContentRow) :
    EmailContent.insertChunkText clock k chunk t = EmailContent.insertChunk clock k chunk t := by
  have hc : chunk.length ≠ 0 := fun h => hne (List.length_eq_zero_iff.1 h)
  have hnames : (EmailContent.insertStatement 0).columns.any (fun c => c ∉ contentColumns) = false := by
    decide
  have hrows : insertedRows "email_contents" contentColumns (ContentRow.ofColumns (clock k)) (clock k)
      (EmailContent.insertStatement chunk.length) (chunk.flatMap EmailContent.insertBinds) =
      chunk.mapM fun c => some (c.toRow (clock k)) :=
    insertedRows_rowsFrom hnames EmailContent.length_group EmailContent.length_insertBinds
      (fun before c after => EmailContent.ofColumns_group before after c) chunk
  rw [EmailContent.insertChunkText, EmailContent.parse_insertSql hc, Option.bind_some, hrows,
    EmailContent.insertChunk]
  have hsome : (chunk.mapM fun c => some (c.toRow (clock k))) =
      some (chunk.map (EmailContent.toRow (clock k))) := List.mapM_pure
  rw [hsome, Option.bind_some]

theorem EmailRequest.insertChunkText_eq (contents : Table ContentRow) (clock : ℕ → Instant) (k : ℕ)
    {chunk : List EmailRequest} (hne : chunk ≠ []) (t : Table RequestRow) :
    EmailRequest.insertChunkText E contents clock k chunk t =
      EmailRequest.insertChunk E contents clock k chunk t := by
  have hc : chunk.length ≠ 0 := fun h => hne (List.length_eq_zero_iff.1 h)
  have hnames : (EmailRequest.insertStatement 0).columns.any
      (fun c => c ∉ requestColumns.tail) = false := by decide
  have hrows : insertedRows "email_requests" requestColumns.tail (RequestRow.ofColumns (clock k))
      (clock k) (EmailRequest.insertStatement chunk.length)
      (chunk.flatMap (EmailRequest.insertBinds E (clock k))) =
      chunk.mapM (EmailRequest.toRow E (clock k)) :=
    insertedRows_rowsFrom hnames EmailRequest.length_group EmailRequest.length_insertBinds
      (fun before req after => EmailRequest.ofColumns_group before after req) chunk
  rw [EmailRequest.insertChunkText, EmailRequest.parse_insertSql hc, Option.bind_some, hrows,
    EmailRequest.insertChunk]

/-! ## The whole batch -/

section SaveBatch

variable {ρ α : Type} {insert insert' : ℕ → List ρ → Table α → Option (Table α)}
  {setId : Int32 → ρ → ρ}

/-- Inserts that agree on every chunk make the same transaction. -/
theorem insertChunks_congr (F : TxFaults) (k : ℕ) {cs : List (List ρ)}
    (h : ∀ chunk ∈ cs, ∀ k t, insert k chunk t = insert' k chunk t) (results : List ρ) :
    insertChunks insert setId F k cs results = insertChunks insert' setId F k cs results := by
  induction cs generalizing k results with
  | nil => rfl
  | cons chunk cs ih =>
    obtain ⟨hchunk, hcs⟩ := List.forall_mem_cons.1 h
    have hinsert : executeInsert insert F k chunk = executeInsert insert' F k chunk := by
      unfold executeInsert
      simp only [hchunk]
    unfold insertChunks
    simp only [hinsert, ih _ hcs]

theorem saveBatchTx_congr (F : TxFaults)
    (h : ∀ chunk, chunk ≠ [] → ∀ k t, insert k chunk t = insert' k chunk t) (xs : List ρ) :
    saveBatchTx insert setId F xs = saveBatchTx insert' setId F xs := by
  have hchunks : insertChunks insert setId F 0 (Chunks.chunks BATCH_INSERT_SIZE xs) [] =
      insertChunks insert' setId F 0 (Chunks.chunks BATCH_INSERT_SIZE xs) [] :=
    insertChunks_congr F 0 (fun chunk hchunk => h chunk (Chunks.bounds_of_mem (by decide) hchunk).1) []
  rw [saveBatchTx, saveBatchTx, hchunks]

end SaveBatch

/-- Whatever fails, `save_batch` run by the texts it sends is the transaction it was
meant to be, and each text has a `?` for every value, at most five for each of 150 rows. -/
theorem insert_text_exact (E : Env) (clock : ℕ → Instant) (F : TxFaults)
    (contents : List EmailContent) (requests : List EmailRequest) :
    (EmailContent.saveBatchText clock F contents = EmailContent.saveBatchTx clock F contents ∧
      ∀ chunk ∈ Chunks.chunks BATCH_INSERT_SIZE contents,
        placeholders (EmailContent.insertSql chunk.length) =
          (chunk.flatMap EmailContent.insertBinds).length ∧
        placeholders (EmailContent.insertSql chunk.length) ≤ 2 * BATCH_INSERT_SIZE) ∧
    ((∀ table, EmailRequest.saveBatchText E table clock F requests =
        EmailRequest.saveBatchTx E table clock F requests) ∧
      ∀ now, ∀ chunk ∈ Chunks.chunks BATCH_INSERT_SIZE requests,
        placeholders (EmailRequest.insertSql chunk.length) =
          (chunk.flatMap (EmailRequest.insertBinds E now)).length ∧
        placeholders (EmailRequest.insertSql chunk.length) ≤ 5 * BATCH_INSERT_SIZE) := by
  have hsize : ∀ {ξ : Type} {xs chunk : List ξ}, chunk ∈ Chunks.chunks BATCH_INSERT_SIZE xs →
      chunk.length ≠ 0 ∧ chunk.length ≤ BATCH_INSERT_SIZE := by
    intro ξ xs chunk hchunk
    obtain ⟨hne, hle⟩ := Chunks.bounds_of_mem (by decide) hchunk
    exact ⟨fun h => hne (List.length_eq_zero_iff.1 h), hle⟩
  refine ⟨⟨?_, fun chunk hchunk => ?_⟩, fun table => ?_, fun now chunk hchunk => ?_⟩
  · exact saveBatchTx_congr F (fun _ hne k t => EmailContent.insertChunkText_eq clock k hne t) contents
  · obtain ⟨hc, hle⟩ := hsize hchunk
    rw [(EmailContent.lexes_insertSql hc).placeholders_eq]
    exact ⟨(length_flatMap_binds EmailContent.length_insertBinds chunk).symm, by omega⟩
  · exact saveBatchTx_congr F (fun _ hne k t => EmailRequest.insertChunkText_eq table clock k hne t)
      requests
  · obtain ⟨hc, hle⟩ := hsize hchunk
    rw [(EmailRequest.lexes_insertSql hc).placeholders_eq]
    exact ⟨(length_flatMap_binds EmailRequest.length_insertBinds chunk).symm, by omega⟩

end Ses
