import SesSender.Lib.Sql
import SesSender.Spec.Receiver

/-! `bulk_update_all` down to the text it sends: the strings and the binds that
its loop builds, the statement formatted from them, and what that statement does
when it is read back with its `?`s bound by position. -/

namespace Ses

/-- The accumulators of the loop. -/
structure BulkText where
  statusCases : String
  messageIdCases : String
  errorCases : String
  statusBinds : List Int
  messageIdBinds : List String
  errorBinds : List String

def BulkText.init : BulkText := ⟨"", "", "", [], [], []⟩

/-- `"WHEN {id} THEN ? "` -/
def whenThen (id : Int32) : String := "WHEN " ++ toString id.toInt ++ " THEN ? "

/-- One iteration of the loop. -/
def BulkText.add (p : BulkText) (req : EmailRequest) : BulkText :=
  match req.id with
  | none => p
  | some id =>
    { statusCases := p.statusCases ++ whenThen id
      statusBinds := p.statusBinds ++ [req.status]
      messageIdCases :=
        if req.messageId.isSome then p.messageIdCases ++ whenThen id else p.messageIdCases
      messageIdBinds := p.messageIdBinds ++ req.messageId.toList
      errorCases := if req.error.isSome then p.errorCases ++ whenThen id else p.errorCases
      errorBinds := p.errorBinds ++ req.error.toList }

def BulkText.ofBatch (batch : List EmailRequest) : BulkText := batch.foldl BulkText.add .init

/-- `message_id_sql` and `error_sql` -/
def optionalSql (column cases : String) : String :=
  if cases.isEmpty then ""
  else ", " ++ column ++ " = CASE id " ++ cases ++ "ELSE " ++ column ++ " END"

def BulkText.sql (p : BulkText) (ids : List Int32) : String :=
  "UPDATE email_requests SET status = CASE id " ++ p.statusCases ++ "ELSE status END" ++
    optionalSql "message_id" p.messageIdCases ++ optionalSql "error" p.errorCases ++
    ", updated_at = datetime('now') WHERE id IN (" ++ ",".intercalate (ids.map fun _ => "?") ++ ")"

/-- All values in the order they are bound. -/
def BulkText.binds (p : BulkText) (ids : List Int32) : List SqlValue :=
  p.statusBinds.map .int ++ p.messageIdBinds.map .text ++ p.errorBinds.map .text ++
    ids.map fun id => .int id.toInt

/-- The statement with its values, when there is one to run. -/
def bulkStatement (batch : List EmailRequest) : Option (String × List SqlValue) :=
  if batch.isEmpty then none
  else
    let ids := batch.filterMap (·.id)
    if ids.isEmpty then none
    else some ((BulkText.ofBatch batch).sql ids, (BulkText.ofBatch batch).binds ids)

/-! ## Running a statement -/

/-- The columns of `email_requests`. -/
def requestColumns : List String :=
  ["id", "topic_id", "content_id", "message_id", "email", "scheduled_at", "status", "error",
    "created_at", "updated_at"]

def RequestRow.column (id : Int) (row : RequestRow) (name : String) : SqlValue :=
  if name = "id" then .int id
  else if name = "topic_id" then .text row.topicId
  else if name = "content_id" then .int row.contentId
  else if name = "message_id" then .ofText row.messageId
  else if name = "email" then .text row.email
  else if name = "scheduled_at" then .text row.scheduledAt
  else if name = "status" then .int row.status
  else if name = "error" then .ofText row.error
  else if name = "created_at" then .text row.createdAt
  else if name = "updated_at" then .text row.updatedAt
  else .null

/-- An assignment to a column the program updates; `none` when NULL is put into
one that is `NOT NULL`. -/
def RequestRow.assign (row : RequestRow) (name : String) (v : SqlValue) : Option RequestRow :=
  if name = "status" then v.toInteger.map fun status => { row with status }
  else if name = "message_id" then some { row with messageId := v.toText }
  else if name = "error" then some { row with error := v.toText }
  else if name = "updated_at" then v.toText.map fun updatedAt => { row with updatedAt }
  else none

/-- The row the statement makes of a row; every value is read from the old row. -/
def writeRow (u : Sql.Update) (param : ℕ → SqlValue) (now : Instant) (id : Int)
    (row : RequestRow) : Option RequestRow :=
  u.sets.foldlM (fun acc a => acc.assign a.column
    (a.value.eval SqlValue.int param (.text now.stamp) (row.column id))) row

/-- An `UPDATE` of `email_requests`. A `?` without a value is NULL. It fails
when it names no table or column there is, or breaks a constraint. -/
def execUpdate (u : Sql.Update) (binds : List SqlValue) (now : Instant) (t : Table RequestRow) :
    Option (Table RequestRow) :=
  let param (k : ℕ) : SqlValue := binds.getD k .null
  let selected (id : Int) (row : RequestRow) : Bool := u.selects param (row.column id)
  if u.table ≠ "email_requests" ∨ u.columns.any fun c => c ∉ requestColumns then none
  else if t.rows.any fun r => selected r.1 r.2 && (writeRow u param now r.1 r.2).isNone then none
  else some (t.update selected fun id row => (writeRow u param now id row).getD row)

/-- `bulk_update_all` by its text. -/
def bulkUpdateText (now : Instant) (batch : List EmailRequest) (t : Table RequestRow) :
    Option (Table RequestRow) :=
  match bulkStatement batch with
  | none => some t
  | some (sql, binds) => (Sql.parse sql).bind fun u => execUpdate u binds now t

end Ses
