import SesSender.Lib.SqlQuery
import SesSender.Spec.InsertText
import SesSender.Spec.Statistics

/-! The other statements of the program down to the texts it sends: what each text
says, the values bound to it, and what SQLite makes of it when it is read back with
its `?`s bound by position. -/

namespace Ses

/-! ## What is sent -/

/-- `vec!["?"; n].join(",")` -/
def questionMarks (n : ℕ) : String := ",".intercalate (List.replicate n "?")

def EmailRequest.updateSql : String :=
  "UPDATE email_requests SET status=?, message_id=?, error=?, updated_at=datetime('now') WHERE id=?"

def EmailRequest.updateBinds (req : EmailRequest) : List SqlValue :=
  [.int req.status, .ofText req.messageId, .ofText req.error, .ofInt32 req.id]

def EmailRequest.stopTopicSql : String :=
  "UPDATE email_requests SET status=?, updated_at=datetime('now') WHERE status=? AND topic_id=?"

def EmailRequest.stopTopicBinds (topicId : String) : List SqlValue :=
  [.int EmailMessageStatus.stopped.asI32, .int EmailMessageStatus.created.asI32, .text topicId]

/-- `rollback_to_created` -/
def rollbackSql (n : ℕ) : String :=
  "UPDATE email_requests SET status=?, updated_at=datetime('now') WHERE id IN (" ++
    questionMarks n ++ ")"

def rollbackBinds (ids : List Int32) : List SqlValue :=
  .int EmailMessageStatus.created.asI32 :: ids.map fun id => .int id.toInt

/-- Phase 1 of `fetch_and_process_batch`. -/
def claimSql : String :=
  "UPDATE email_requests\n" ++
  "         SET status = ?, updated_at = datetime('now')\n" ++
  "         WHERE id IN (\n" ++
  "             SELECT id FROM email_requests\n" ++
  "             WHERE status = ? AND scheduled_at <= datetime('now')\n" ++
  "             ORDER BY scheduled_at ASC\n" ++
  "             LIMIT ?\n" ++
  "         )\n" ++
  "         RETURNING id, topic_id, content_id, email"

def claimBinds : List SqlValue :=
  [.int EmailMessageStatus.processed.asI32, .int EmailMessageStatus.created.asI32,
    .int Scheduler.BATCH_SIZE]

/-- Phase 2 of `fetch_and_process_batch`. -/
def fetchSql (n : ℕ) : String :=
  "SELECT r.id, r.topic_id, r.content_id, r.email, c.subject, c.content\n" ++
  "         FROM email_requests r\n" ++
  "         JOIN email_contents c ON r.content_id = c.id\n" ++
  "         WHERE r.id IN (" ++ questionMarks n ++ ")"

def fetchBinds (ids : List Int) : List SqlValue := ids.map .int

def EmailRequest.sentCountSql : String :=
  "SELECT COUNT(*) FROM email_requests WHERE status=? AND created_at >= datetime('now', ?)"

def EmailRequest.sentCountBinds (hours : Int32) : List SqlValue :=
  [.int EmailMessageStatus.sent.asI32, .text ("-" ++ toString hours.toInt ++ " hours")]

def EmailRequest.countsSql : String :=
  "SELECT status, COUNT(*) FROM email_requests WHERE topic_id=? GROUP BY status"

def EmailRequest.idSql : String := "SELECT id FROM email_requests WHERE message_id=?"

def EmailResult.countsSql : String :=
  "SELECT r.status, COUNT(DISTINCT r.request_id)\n" ++
  "             FROM email_results r\n" ++
  "             INNER JOIN email_requests req ON r.request_id = req.id\n" ++
  "             WHERE req.topic_id = ?\n" ++
  "             GROUP BY r.status"

/-! ## What is read -/

/-- A row of phase 1, as `sqlx` decodes it. -/
def UpdatedRow.decode : List SqlValue → Option UpdatedRow
  | [.int id, .text topicId, .int contentId, .text email] =>
    (decodeI32 contentId).map fun contentId => { id, topicId, contentId, email }
  | _ => none

/-- A row of phase 2. -/
def ScheduledEmailRow.decode : List SqlValue → Option ScheduledEmailRow
  | [.int id, .text topicId, .int contentId, .text email, .text subject, .text content] =>
    (decodeI32 contentId).map fun contentId => { id, topicId, contentId, email, subject, content }
  | _ => none

/-- `fetch_one` of a row read as `(i32,)`. -/
def fetchOne : List (List SqlValue) → Except SqlxError Int32
  | [] => .error .rowNotFound
  | [.int n] :: _ => fetchI32 n
  | _ => .error .database

/-! ## The database -/

def SqlValue.eq : SqlValue → SqlValue → Bool
  | .int m, .int n => m = n
  | .text s, .text t => s = t
  | _, _ => false

/-- Every integer comes before every text. -/
def SqlValue.le : SqlValue → SqlValue → Bool
  | .int m, .int n => m ≤ n
  | .text s, .text t => s ≤ t
  | .int _, .text _ => true
  | _, _ => false

/-- The hours of a modifier `-n hours`. Other modifiers the program does not send. -/
def readHours (s : String) : Option ℕ :=
  match s.toList with
  | '-' :: cs =>
    let digits := cs.takeWhile Char.isDigit
    if digits ≠ [] ∧ cs.dropWhile Char.isDigit = " hours".toList then some (digitsValue digits)
    else none
  | _ => none

/-- `datetime('now', s)` -/
def shiftedNow (now : Instant) : SqlValue → SqlValue
  | .text s => .ofText ((readHours s).bind fun hours =>
      let start := now.hoursBefore hours
      if start.secs < julianZero then none else some start.stamp)
  | _ => .null

def sqlValues (now : Instant) : Sql.Values SqlValue where
  eq := SqlValue.eq
  le := SqlValue.le
  clock := .text now.stamp
  shifted := shiftedNow now
  count n := .int n
  limit v := v.toInteger.bind fun n => if 0 ≤ n then some n.toNat else none

def ContentRow.column (id : Int) (row : ContentRow) (name : String) : SqlValue :=
  if name = "id" then .int id
  else if name = "subject" then .text row.subject
  else if name = "content" then .text row.content
  else if name = "created_at" then .text row.createdAt
  else .null

def ResultRow.column (id : Int) (row : ResultRow) (name : String) : SqlValue :=
  if name = "id" then .int id
  else if name = "request_id" then .int row.requestId
  else if name = "status" then .text row.status
  else if name = "raw" then .ofText row.raw
  else if name = "created_at" then .text row.createdAt
  else .null

def resultColumns : List String := ["id", "request_id", "status", "raw", "created_at"]

def Db.relation (db : Db) (name : String) : Option (Sql.Relation SqlValue) :=
  if name = "email_requests" then
    some ⟨requestColumns, db.requests.rows.map fun r => r.2.column r.1⟩
  else if name = "email_contents" then
    some ⟨"id" :: contentColumns, db.contents.rows.map fun r => r.2.column r.1⟩
  else if name = "email_results" then
    some ⟨resultColumns, db.results.rows.map fun r => r.2.column r.1⟩
  else none

/-! ## Running a statement -/

/-- A `?` without a value is NULL. -/
def boundTo (binds : List SqlValue) (k : ℕ) : SqlValue := binds.getD k .null

/-- A `SELECT` may answer with these rows. -/
def Db.Selects (db : Db) (now : Instant) (sql : String) (binds : List SqlValue)
    (rows : List (List SqlValue)) : Prop :=
  ∃ q, Sql.parseSelect sql = some q ∧
    q.Yields (sqlValues now) (boundTo binds) db.relation rows

section Change

variable (c : Sql.Change) (binds : List SqlValue) (now : Instant)

/-- An operand of an `UPDATE`, on a row of `email_requests`. -/
def requestValue (row : String → SqlValue) (o : Sql.Operand) : Option SqlValue :=
  o.eval (sqlValues now) (boundTo binds) [(c.table, requestColumns)] [row]

/-- The row an `UPDATE` makes of a row; every value is read from the old row. -/
def changeRow (id : Int) (row : RequestRow) : Option RequestRow :=
  c.sets.foldlM (fun acc a =>
    (requestValue c binds now (row.column id) a.2).bind (acc.assign a.1)) row

/-- What `RETURNING` gives for a row that was picked. -/
def returnedRow (r : Int × RequestRow) : Option (List SqlValue) :=
  (changeRow c binds now r.1 r.2).bind fun row =>
    c.returning.mapM (requestValue c binds now (row.column r.1))

end Change

/-- An `UPDATE` of `email_requests` may leave this table and return these rows. It
fails as a whole when it names what is not there or breaks a constraint. -/
def Db.Updates (db : Db) (now : Instant) (sql : String) (binds : List SqlValue)
    (requests : Table RequestRow) (rows : List (List SqlValue)) : Prop :=
  ∃ c, Sql.parseChange sql = some c ∧ c.table = "email_requests" ∧
    (c.sets.all fun a => a.2.known [(c.table, requestColumns)]) = true ∧
    (c.returning.all fun o => o.known [(c.table, requestColumns)]) = true ∧
    ∃ picked, c.filter.Picks (sqlValues now) (boundTo binds) db.relation requestColumns c.table
        picked ∧
      (∀ r ∈ db.requests.rows, picked (r.2.column r.1) = true →
        (changeRow c binds now r.1 r.2).isSome = true) ∧
      requests = db.requests.update (fun id row => picked (row.column id))
        (fun id row => (changeRow c binds now id row).getD row) ∧
      if c.returning.isEmpty then rows = []
      else ∃ returned, (db.requests.rows.filter fun r => picked (r.2.column r.1)).mapM
          (returnedRow c binds now) = some returned ∧ rows.Perm returned

end Ses
