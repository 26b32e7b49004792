import SesSender.Spec.Requests

/-! `services/receiver.rs` and `services/sender.rs`: the tracking pixel and the
SES call of a sender task, the batching loop of the post-processor, and the one
generated `UPDATE` that writes a whole batch. -/

namespace Ses

open Calendar

/-! ## `send_email` -/

def MAX_RETRIES : ℕ := 3

/-- `SdkError`, with the debug text of each. -/
inductive SdkError where
  | serviceError (status : ℕ) (debug : String)
  | timeoutError (debug : String)
  | dispatchFailure (debug : String)
  | other (debug : String)
  deriving DecidableEq

def SdkError.debug : SdkError → String
  | .serviceError _ d => d
  | .timeoutError d => d
  | .dispatchFailure d => d
  | .other d => d

/-- `is_retryable_error` -/
def SdkError.isRetryable : SdkError → Bool
  | .serviceError status _ => status = 429
  | .timeoutError _ => true
  | .dispatchFailure _ => true
  | .other _ => false

inductive SendEmailError where
  | sdk (debug : String)
  deriving DecidableEq

def SendEmailError.toText : SendEmailError → String
  | .sdk debug => "SES SDK error: " ++ debug

/-- The retry loop, given how the calls to SES come back; `none` while it still waits. -/
def sendEmail.loop (attempts : ℕ) :
    List (Except SdkError (Option String)) → Option (Except SendEmailError String)
  | [] => none
  | .ok messageId :: _ => some (.ok (messageId.getD ""))
  | .error e :: rest =>
    if e.isRetryable ∧ attempts < MAX_RETRIES then sendEmail.loop (attempts + 1) rest
    else some (.error (.sdk e.debug))

def sendEmail (calls : List (Except SdkError (Option String))) :
    Option (Except SendEmailError String) :=
  sendEmail.loop 0 calls

/-- One call of `.send()`: how it comes back, and whether SES has taken the mail. What
the SDK retries inside the call is part of it. -/
structure SesCall where
  outcome : Except SdkError (Option String)
  accepted : Bool
  deriving DecidableEq

/-- Which of the two go together: what succeeds was accepted, what the service
refuses was not, and when no answer came either may be. -/
def SesCall.Possible (call : SesCall) : Prop :=
  match call.outcome with
  | .ok _ => call.accepted = true
  | .error (.serviceError _ _) => call.accepted = false
  | .error _ => True

/-- The calls the loop makes, of those it is ready to make. -/
def sendEmail.made (attempts : ℕ) : List SesCall → List SesCall
  | [] => []
  | call :: rest =>
    match call.outcome with
    | .ok _ => [call]
    | .error e =>
      if e.isRetryable ∧ attempts < MAX_RETRIES then call :: sendEmail.made (attempts + 1) rest
      else [call]

/-- How many of the calls SES has taken a mail from. -/
def copies (calls : List SesCall) : ℕ := calls.countP (·.accepted)

/-! ## The sender task -/

/-- `request.id.unwrap_or_default()` -/
def EmailRequest.requestId (req : EmailRequest) : Int32 := req.id.getD 0

/-- The path and query of the tracking pixel's URL. -/
def openTarget (requestId : Int32) : String :=
  "/v1/events/open?request_id=" ++ toString requestId.toInt

/-- The body handed to SES: the content with the pixel appended. -/
def EmailRequest.body (E : Env) (req : EmailRequest) : String :=
  req.content ++ "<img src=\"" ++ E.serverUrl ++ openTarget req.requestId ++ "\">"

/-- The request as the task passes it on, once SES has answered. -/
def EmailRequest.answered (req : EmailRequest) (result : Except SendEmailError String) :
    EmailRequest :=
  match result with
  | .ok messageId =>
    { req with status := EmailMessageStatus.sent.asI32, messageId := some messageId }
  | .error e =>
    { req with status := EmailMessageStatus.failed.asI32, error := some e.toText }

/-! ## The post-processor -/

def Receiver.BATCH_SIZE : ℕ := 100

/-- What one `timeout(recv)` gives. -/
inductive PostEvent where
  | received (req : EmailRequest)
  | timeout
  | closed

/-- `receive_post_send_message` between two awaits. `last` is set when the loop
breaks after the flush. -/
inductive PostProcessor where
  | collecting (batch : List EmailRequest)
  | flushing (batch : List EmailRequest) (last : Bool)
  | draining (rest : List EmailRequest) (last : Bool)
  | stopped

/-- One iteration up to its flush; `elapsed` is the test on `last_flush`. -/
def PostProcessor.iterate (batch : List EmailRequest) (elapsed : Bool) : PostEvent → PostProcessor
  | .received req =>
    let batch := batch ++ [req]
    if batch.length ≥ Receiver.BATCH_SIZE ∨ elapsed then .flushing batch false
    else .collecting batch
  | .closed => if batch.isEmpty then .stopped else .flushing batch true
  | .timeout => if !batch.isEmpty && elapsed then .flushing batch false else .collecting batch

def PostProcessor.afterFlush (last : Bool) : PostProcessor :=
  if last then .stopped else .collecting []

/-! ## `bulk_update_all` -/

inductive SqlValue where
  | null
  | int (n : Int)
  | text (s : String)
  deriving DecidableEq

def SqlValue.toInteger : SqlValue → Option Int
  | .int n => some n
  | _ => none

def SqlValue.toText : SqlValue → Option String
  | .text s => some s
  | .int n => some (toString n)
  | .null => none

def SqlValue.ofText : Option String → SqlValue
  | some s => .text s
  | none => .null

/-- The generated statement, as far as its meaning goes: the ids of the `WHEN`
branches of the three ladders, one `?` each, and the `?`s of the `IN` list. -/
structure BulkSql where
  statusCases : List Int32
  messageIdCases : List Int32
  errorCases : List Int32
  placeholders : ℕ

/-- The accumulators of the loop over the batch. -/
structure BulkParts where
  statusCases : List Int32
  messageIdCases : List Int32
  errorCases : List Int32
  statusBinds : List Int
  messageIdBinds : List String
  errorBinds : List String

def BulkParts.init : BulkParts := ⟨[], [], [], [], [], []⟩

/-- One iteration of the loop. -/
def BulkParts.add (p : BulkParts) (req : EmailRequest) : BulkParts :=
  match req.id with
  | none => p
  | some id =>
    { statusCases := p.statusCases ++ [id]
      statusBinds := p.statusBinds ++ [req.status]
      messageIdCases := if req.messageId.isSome then p.messageIdCases ++ [id] else p.messageIdCases
      messageIdBinds := p.messageIdBinds ++ req.messageId.toList
      errorCases := if req.error.isSome then p.errorCases ++ [id] else p.errorCases
      errorBinds := p.errorBinds ++ req.error.toList }

def BulkParts.ofBatch (batch : List EmailRequest) : BulkParts := batch.foldl BulkParts.add .init

/-- All values in the order they are bound. -/
def BulkParts.binds (p : BulkParts) (ids : List Int32) : List SqlValue :=
  p.statusBinds.map .int ++ p.messageIdBinds.map .text ++ p.errorBinds.map .text ++
    ids.map fun id => .int id.toInt

/-- `CASE id WHEN i THEN ? … ELSE old END`, the first `?` bound to the first value. -/
def caseLadder (id : Int) (old : SqlValue) : List Int32 → List SqlValue → SqlValue
  | [], _ => old
  | i :: cases, binds =>
    if i.toInt = id then binds.headD .null else caseLadder id old cases binds.tail

/-- The statement run with the values bound by position, `none` when it would
store no integer as a status. -/
def BulkSql.exec (q : BulkSql) (binds : List SqlValue) (now : Instant) (t : Table RequestRow) :
    Option (Table RequestRow) :=
  let messageIdBinds := binds.drop q.statusCases.length
  let errorBinds := messageIdBinds.drop q.messageIdCases.length
  let ids := (errorBinds.drop q.errorCases.length).take q.placeholders
  let status (id : Int) (row : RequestRow) :=
    (caseLadder id (.int row.status) q.statusCases binds).toInteger
  if t.rows.any fun r => .int r.1 ∈ ids ∧ status r.1 r.2 = none then none
  else some (t.update (fun id _ => .int id ∈ ids) fun id row =>
    { row with
      status := (status id row).getD row.status
      messageId := (caseLadder id (.ofText row.messageId) q.messageIdCases messageIdBinds).toText
      error := (caseLadder id (.ofText row.error) q.errorCases errorBinds).toText
      updatedAt := now.stamp })

def bulkUpdateAll (now : Instant) (batch : List EmailRequest) (t : Table RequestRow) :
    Option (Table RequestRow) :=
  let ids := batch.filterMap (·.id)
  if ids.isEmpty then some t
  else
    let p := BulkParts.ofBatch batch
    let q : BulkSql := ⟨p.statusCases, p.messageIdCases, p.errorCases, ids.length⟩
    q.exec (p.binds ids) now t

end Ses
