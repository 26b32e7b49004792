import SesSender.Lib.Chunks
import SesSender.Spec.Schedule

/-! The statements of `models/content.rs` and `models/request.rs`, each as what
it does to its table. `datetime('now')` is the clock at the statement. -/

namespace Ses

open Calendar Chunks

def BATCH_INSERT_SIZE : ℕ := 150

/-! ## Batch inserts -/

/-- Which statements of one batch insert fail. The `INSERT` of a chunk and the
`SELECT last_insert_rowid()` after it are numbered by chunk. -/
structure TxFaults where
  beginTx : Bool
  insert : ℕ → Bool
  lastId : ℕ → Bool
  commit : Bool

def TxFaults.none : TxFaults := ⟨false, fun _ => false, fun _ => false, false⟩

section SaveBatch

variable {ρ α : Type} (insert : ℕ → List ρ → Table α → Option (Table α)) (setId : Int32 → ρ → ρ)

/-- The loop over the chunks inside the transaction. The ids are not returned
by the database but counted back from the last one. -/
def saveChunks (F : TxFaults) :
    ℕ → List (List ρ) → Table α → List ρ → Except SqlxError (List ρ × Table α)
  | _, [], t, results => .ok (results, t)
  | k, chunk :: rest, t, results =>
    if F.insert k then .error .database
    else match insert k chunk t with
      | none => .error .database
      | some t' =>
        if F.lastId k then .error .database
        else
          let lastId := t'.seq
          let saved := chunk.mapIdx fun i c =>
            setId (asI32 (lastId - ((chunk.length - 1 - i : ℕ) : Int))) c
          saveChunks F (k + 1) rest t' (results ++ saved)

/-- The transaction around the loop. On an error it is dropped, which rolls it back. -/
def saveAll (F : TxFaults) (xs : List ρ) (t : Table α) : Except SqlxError (List ρ × Table α) :=
  if xs.isEmpty then .ok ([], t)
  else if F.beginTx then .error .database
  else match saveChunks insert setId F 0 (chunks BATCH_INSERT_SIZE xs) t [] with
    | .error e => .error e
    | .ok r => if F.commit then .error .database else .ok r

end SaveBatch

def EmailContent.toRow (now : Instant) (c : EmailContent) : ContentRow :=
  { subject := c.subject, content := c.content, createdAt := now.stamp }

def EmailContent.insertChunk (clock : ℕ → Instant) (k : ℕ) (chunk : List EmailContent)
    (t : Table ContentRow) : Option (Table ContentRow) :=
  t.insert? (chunk.map (EmailContent.toRow (clock k)))

/-- `EmailContent::save_batch`. `clock k` is the time of the `k`-th `INSERT`. -/
def EmailContent.saveBatch (clock : ℕ → Instant) (F : TxFaults) (contents : List EmailContent)
    (t : Table ContentRow) : Except SqlxError (List EmailContent × Table ContentRow) :=
  saveAll (EmailContent.insertChunk clock) (fun id c => { c with id := some id }) F contents t

/-- The values bound for one row; `topic_id` and `content_id` are `NOT NULL`. -/
def EmailRequest.toRow (E : Env) (now : Instant) (req : EmailRequest) : Option RequestRow :=
  match req.topicId, req.contentId with
  | some topicId, some contentId =>
    some { topicId, contentId := contentId.toInt, messageId := none, email := req.email
           scheduledAt := parseScheduledAt E now req.scheduledAt, status := req.status
           error := none, createdAt := now.stamp, updatedAt := now.stamp }
  | _, _ => none

/-- One multi-row `INSERT`, refused as a whole when a row breaks a constraint. -/
def EmailRequest.insertChunk (E : Env) (contents : Table ContentRow) (clock : ℕ → Instant) (k : ℕ)
    (chunk : List EmailRequest) (t : Table RequestRow) : Option (Table RequestRow) :=
  (chunk.mapM (EmailRequest.toRow E (clock k))).bind fun rows =>
    if E.foreignKeys && rows.any fun r => (contents.get? r.contentId).isNone then none
    else t.insert? rows

/-- `EmailRequest::save_batch` -/
def EmailRequest.saveBatch (E : Env) (contents : Table ContentRow) (clock : ℕ → Instant)
    (F : TxFaults) (requests : List EmailRequest) (t : Table RequestRow) :
    Except SqlxError (List EmailRequest × Table RequestRow) :=
  saveAll (EmailRequest.insertChunk E contents clock) (fun id r => { r with id := some id }) F
    requests t

/-! ## Updates and lookups -/

/-- `EmailRequest::update`. A request without an id binds NULL and matches no row. -/
def EmailRequest.update (now : Instant) (req : EmailRequest) (t : Table RequestRow) :
    Table RequestRow :=
  t.update (fun id _ => req.rowid = some id) fun _ row =>
    { row with status := req.status, messageId := req.messageId, error := req.error
               updatedAt := now.stamp }

/-- `EmailRequest::stop_topic` -/
def EmailRequest.stopTopic (now : Instant) (topicId : String) (t : Table RequestRow) :
    Table RequestRow :=
  t.update (fun _ row => row.status = EmailMessageStatus.created.asI32 ∧ row.topicId = topicId)
    fun _ row => { row with status := EmailMessageStatus.stopped.asI32, updatedAt := now.stamp }

/-- `EmailRequest::get_request_id_by_message_id` -/
def EmailRequest.getRequestIdByMessageId (messageId : String) (t : Table RequestRow) :
    Except SqlxError Int32 :=
  match t.rows.find? fun r => r.2.messageId = some messageId with
  | none => .error .rowNotFound
  | some r => match decodeI32 r.1 with
    | none => .error .database
    | some id => .ok id

end Ses
