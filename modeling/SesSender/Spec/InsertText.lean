import SesSender.Lib.SqlInsert
import SesSender.Spec.BulkText
import SesSender.Spec.Inserts

/-! `save_batch` down to the text it sends: the `INSERT` formatted for a chunk,
the values bound to it, and what that statement does when it is read back with
its `?`s bound by position. -/

namespace Ses

/-! ## What is sent -/

/-- The statement for a chunk of that size. -/
def EmailContent.insertSql (chunkSize : ℕ) : String :=
  "INSERT INTO email_contents (subject, content, created_at) VALUES " ++
    ", ".intercalate (List.replicate chunkSize "(?, ?, datetime('now'))")

def EmailContent.insertBinds (c : EmailContent) : List SqlValue := [.text c.subject, .text c.content]

def EmailRequest.insertSql (chunkSize : ℕ) : String :=
  "INSERT INTO email_requests (topic_id, content_id, email, scheduled_at, status, created_at, " ++
    "updated_at) VALUES " ++
    ", ".intercalate
      (List.replicate chunkSize "(?, ?, ?, ?, ?, datetime('now'), datetime('now'))")

def SqlValue.ofInt32 : Option Int32 → SqlValue
  | some n => .int n.toInt
  | none => .null

def EmailRequest.insertBinds (E : Env) (now : Instant) (req : EmailRequest) : List SqlValue :=
  [.ofText req.topicId, .ofInt32 req.contentId, .text req.email,
    .text (parseScheduledAt E now req.scheduledAt), .int req.status]

/-! ## Running a statement -/

/-- One group of values, evaluated. A `?` without a value is NULL. -/
def groupValues (now : Instant) (binds : List SqlValue) (vs : List Sql.Value) : List SqlValue :=
  vs.map (Sql.Value.eval (fun k => binds.getD k .null) (.text now.stamp))

/-- What the statement gives each column of a row. -/
def columnValue (columns : List String) (values : List SqlValue) (name : String) : Option SqlValue :=
  (columns.zip values).lookup name

/-- The columns of `email_contents`, less the id. -/
def contentColumns : List String := ["subject", "content", "created_at"]

/-- A row of `email_contents`: a column left out has its default, and none is NULL. -/
def ContentRow.ofColumns (now : Instant) (get : String → Option SqlValue) : Option ContentRow := do
  let subject ← ((get "subject").getD .null).toText
  let content ← ((get "content").getD .null).toText
  let createdAt ← ((get "created_at").getD (.text now.stamp)).toText
  pure { subject, content, createdAt }

/-- A row of `email_requests`. `message_id` and `error` are NULL unless given. -/
def RequestRow.ofColumns (now : Instant) (get : String → Option SqlValue) : Option RequestRow := do
  let topicId ← ((get "topic_id").getD .null).toText
  let contentId ← ((get "content_id").getD .null).toInteger
  let email ← ((get "email").getD .null).toText
  let scheduledAt ← ((get "scheduled_at").getD .null).toText
  let status ← ((get "status").getD (.int 0)).toInteger
  let createdAt ← ((get "created_at").getD (.text now.stamp)).toText
  let updatedAt ← ((get "updated_at").getD (.text now.stamp)).toText
  pure { topicId, contentId, messageId := ((get "message_id").getD .null).toText, email
         scheduledAt, status, error := ((get "error").getD .null).toText, createdAt, updatedAt }

/-- The rows of an `INSERT`; `none` when it names no table or column there is, has
more or fewer values than columns, or puts NULL where none may be. -/
def insertedRows {α : Type} (table : String) (columns : List String)
    (ofColumns : (String → Option SqlValue) → Option α) (now : Instant) (i : Sql.Insert)
    (binds : List SqlValue) : Option (List α) :=
  if i.table ≠ table ∨ (i.columns.any fun c => c ∉ columns) ∨
      i.rows.any fun vs => vs.length ≠ i.columns.length then none
  else i.rows.mapM fun vs => ofColumns (columnValue i.columns (groupValues now binds vs))

/-- The `INSERT` of a chunk by its text. -/
def EmailContent.insertChunkText (clock : ℕ → Instant) (k : ℕ) (chunk : List EmailContent)
    (t : Table ContentRow) : Option (Table ContentRow) :=
  (Sql.parseInsert (EmailContent.insertSql chunk.length)).bind fun i =>
    (insertedRows "email_contents" contentColumns (ContentRow.ofColumns (clock k)) (clock k) i
      (chunk.flatMap EmailContent.insertBinds)).bind t.insert?

def EmailRequest.insertChunkText (E : Env) (contents : Table ContentRow) (clock : ℕ → Instant)
    (k : ℕ) (chunk : List EmailRequest) (t : Table RequestRow) : Option (Table RequestRow) :=
  (Sql.parseInsert (EmailRequest.insertSql chunk.length)).bind fun i =>
    (insertedRows "email_requests" requestColumns.tail (RequestRow.ofColumns (clock k)) (clock k) i
      (chunk.flatMap (EmailRequest.insertBinds E (clock k)))).bind fun rows =>
        if E.foreignKeys && rows.any fun r => (contents.get? r.contentId).isNone then none
        else t.insert? rows

/-- `EmailContent::save_batch` by the texts it sends. -/
def EmailContent.saveBatchText (clock : ℕ → Instant) (F : TxFaults) (contents : List EmailContent) :
    Transaction.Program (Store ContentRow) SqlxError (List EmailContent) :=
  Ses.saveBatchTx (EmailContent.insertChunkText clock) (fun id c => { c with id := some id }) F
    contents

/-- `EmailRequest::save_batch` by the texts it sends. -/
def EmailRequest.saveBatchText (E : Env) (contents : Table ContentRow) (clock : ℕ → Instant)
    (F : TxFaults) (requests : List EmailRequest) :
    Transaction.Program (Store RequestRow) SqlxError (List EmailRequest) :=
  Ses.saveBatchTx (EmailRequest.insertChunkText E contents clock)
    (fun id r => { r with id := some id }) F requests

end Ses
