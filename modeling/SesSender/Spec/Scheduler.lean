import SesSender.Spec.Requests

/-! `fetch_and_process_batch`: claim the oldest due rows, read their contents
with one JOIN, push them into the send channel. SQL leaves open which of several
rows with one `scheduled_at` is picked and in which order rows are returned, so
these are choices of the call. -/

namespace Ses

open Calendar

def Scheduler.BATCH_SIZE : ℕ := 1000

/-- `WHERE status = Created AND scheduled_at <= datetime('now')`, compared as text. -/
def due (now : Instant) (row : RequestRow) : Bool :=
  row.status = EmailMessageStatus.created.asI32 ∧ row.scheduledAt ≤ now.stamp

def dueRows (now : Instant) (t : Table RequestRow) : List (Int × RequestRow) :=
  t.rows.filter fun r => due now r.2

/-- `ORDER BY scheduled_at ASC LIMIT 1000` may pick exactly these rows. -/
def OldestDue (now : Instant) (t : Table RequestRow) (chosen : List Int) : Prop :=
  chosen.Nodup ∧ (∀ id ∈ chosen, id ∈ (dueRows now t).map Prod.fst) ∧
  chosen.length = min Scheduler.BATCH_SIZE (dueRows now t).length ∧
  ∀ r ∈ dueRows now t, r.1 ∈ chosen → ∀ r' ∈ dueRows now t, r'.1 ∉ chosen →
    r.2.scheduledAt ≤ r'.2.scheduledAt

instance (now : Instant) (t : Table RequestRow) (chosen : List Int) :
    Decidable (OldestDue now t chosen) :=
  inferInstanceAs (Decidable (_ ∧ _ ∧ _ ∧ _))

structure UpdatedRow where
  id : Int
  topicId : String
  contentId : Int32
  email : String
  deriving DecidableEq

structure ScheduledEmailRow where
  id : Int
  topicId : String
  contentId : Int32
  email : String
  subject : String
  content : String
  deriving DecidableEq

/-- The `UPDATE` of phase 1. -/
def claim (now : Instant) (chosen : List Int) (t : Table RequestRow) : Table RequestRow :=
  t.update (fun id _ => id ∈ chosen) fun _ row =>
    { row with status := EmailMessageStatus.processed.asI32, updatedAt := now.stamp }

/-- The `RETURNING` clause, decoded; `none` when a row does not decode. -/
def returning (t : Table RequestRow) (chosen : List Int) : Option (List UpdatedRow) :=
  chosen.mapM fun id => do
    let row ← t.get? id
    let contentId ← decodeI32 row.contentId
    some { id, topicId := row.topicId, contentId, email := row.email }

/-- The rows of the JOIN of phase 2, in rowid order, before they are decoded. -/
def joined (db : Db) (ids : List Int) : List (Int × RequestRow × ContentRow) :=
  db.requests.rows.filterMap fun r =>
    if r.1 ∈ ids then (db.contents.get? r.2.contentId).map fun c => (r.1, r.2, c) else none

/-- The `SELECT` of phase 2; `none` when a row does not decode. -/
def selectScheduled (db : Db) (ids : List Int) : Option (List ScheduledEmailRow) :=
  (joined db ids).mapM fun (id, row, c) => do
    let contentId ← decodeI32 row.contentId
    some { id, topicId := row.topicId, contentId, email := row.email
           subject := c.subject, content := c.content }

def ScheduledEmailRow.toRequest (row : ScheduledEmailRow) : EmailRequest :=
  { id := some (asI32 row.id), topicId := some row.topicId, contentId := some row.contentId
    email := row.email, subject := row.subject, content := row.content, scheduledAt := none
    status := EmailMessageStatus.processed.asI32, error := none, messageId := none }

inductive SchedulerError where
  | database (e : SqlxError)
  | channelClosed
  deriving DecidableEq

/-! ## The call as a whole -/

/-- What one call meets: the picked rows, the order of the second result, the
statements that fail, and after how many requests the channel is found closed. -/
structure BatchEnv where
  now : Instant
  chosen : List Int
  rows : List ScheduledEmailRow
  updateFails : Bool
  selectFails : Bool
  closedAfter : Option ℕ

structure BatchResult where
  db : Db
  pushed : List EmailRequest
  result : Except SchedulerError ℕ

/-- One call, `none` when the choices are not ones SQL can make. -/
def fetchAndProcessBatch (env : BatchEnv) (db : Db) : Option BatchResult :=
  if env.updateFails then some ⟨db, [], .error (.database .database)⟩
  else if ¬ OldestDue env.now db.requests env.chosen then none
  else
    let db := { db with requests := claim env.now env.chosen db.requests }
    match returning db.requests env.chosen with
    | none => some ⟨db, [], .error (.database .database)⟩
    | some updated =>
      if updated.isEmpty then some ⟨db, [], .ok 0⟩
      else if env.selectFails then some ⟨db, [], .error (.database .database)⟩
      else match selectScheduled db (updated.map (·.id)) with
      | none => some ⟨db, [], .error (.database .database)⟩
      | some rows =>
        if ¬ env.rows.isPerm rows then none
        else
          let requests := env.rows.map ScheduledEmailRow.toRequest
          match env.closedAfter with
          | some k =>
            if k < requests.length then some ⟨db, requests.take k, .error .channelClosed⟩
            else some ⟨db, requests, .ok updated.length⟩
          | none => some ⟨db, requests, .ok updated.length⟩

/-- Both statements succeed, and the channel stays open. -/
structure BatchEnv.FailureFree (env : BatchEnv) : Prop where
  update : env.updateFails = false
  select : env.selectFails = false
  send : env.closedAfter = none

/-- The calls in order until one returns 0; `none` when none does, or one fails. -/
def fetchUntilEmpty : List BatchEnv → Db → Option (Db × List EmailRequest)
  | [], _ => none
  | env :: envs, db =>
    match fetchAndProcessBatch env db with
    | some ⟨db, pushed, .ok 0⟩ => some (db, pushed)
    | some ⟨db, pushed, .ok _⟩ => (fetchUntilEmpty envs db).map fun r => (r.1, pushed ++ r.2)
    | _ => none

/-- The calls of the scheduler loop in order, what each of them returns, and the
database after the last. The loop goes on after an error. -/
def fetchRepeatedly : List BatchEnv → Db → Option (List BatchResult × Db)
  | [], db => some ([], db)
  | env :: envs, db =>
    (fetchAndProcessBatch env db).bind fun res =>
      (fetchRepeatedly envs res.db).map fun r => (res :: r.1, r.2)

end Ses
