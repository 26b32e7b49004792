import SesSender.Spec.Requests

/-! `create_message`: the contents and the requests are saved, then the requests
of an immediate payload are handed to the send channel one by one. -/

namespace Ses

open Calendar

def MAX_EMAILS_PER_REQUEST : ℕ := 10000

structure Message where
  topicId : Option String
  emails : List String
  subject : String
  content : String

structure CreateMessageRequest where
  messages : List Message
  scheduledAt : Option String

structure CreateMessageResponse where
  total : ℕ
  success : ℕ
  errors : ℕ
  scheduled : Bool
  deriving DecidableEq

inductive AppError where
  | badRequest (msg : String)
  | notFound (msg : String)
  | database (e : SqlxError)
  deriving DecidableEq

def CreateMessageRequest.isScheduled (payload : CreateMessageRequest) : Bool :=
  match payload.scheduledAt with
  | some s => s ≠ ""
  | none => false

def CreateMessageRequest.status (payload : CreateMessageRequest) : Int :=
  if payload.isScheduled then EmailMessageStatus.created.asI32
  else EmailMessageStatus.processed.asI32

/-- Step 1: one content per message. -/
def CreateMessageRequest.contents (payload : CreateMessageRequest) : List EmailContent :=
  payload.messages.map fun msg => { id := none, subject := msg.subject, content := msg.content }

/-- Step 2: one request per address of each message, with the content saved for it. -/
def CreateMessageRequest.requests (payload : CreateMessageRequest) (saved : List EmailContent) :
    List EmailRequest :=
  (payload.messages.zip saved).flatMap fun (msg, savedContent) =>
    msg.emails.map fun email =>
      { id := none, topicId := some (msg.topicId.getD ""), contentId := savedContent.id, email
        subject := savedContent.subject, content := savedContent.content
        scheduledAt := payload.scheduledAt, status := payload.status
        error := none, messageId := none }

/-! ## The hand-off loop -/

/-- How the channel answers for one request: `try_send` succeeds, or finds the
channel full and the awaited `send` succeeds or finds it closed meanwhile, or
`try_send` finds it closed. -/
inductive SendOutcome where
  | ok | fullOk | fullClosed | closed
  deriving DecidableEq

structure HandOff where
  /-- what the channel has accepted -/
  pushed : List EmailRequest
  /-- `failed_requests` -/
  failed : List EmailRequest
  channelClosed : Bool

def HandOff.init : HandOff := ⟨[], [], false⟩

def EmailRequest.markCreated (req : EmailRequest) : EmailRequest :=
  { req with status := EmailMessageStatus.created.asI32 }

/-- What the channel's answer leaves. `send` gives nothing back, so a request
whose awaited `send` fails joins neither list. -/
def HandOff.settle (st : HandOff) (req : EmailRequest) : SendOutcome → HandOff
  | .ok => { st with pushed := st.pushed ++ [req] }
  | .fullOk => { st with pushed := st.pushed ++ [req] }
  | .fullClosed => { st with channelClosed := true }
  | .closed => { st with failed := st.failed ++ [req.markCreated], channelClosed := true }

/-- One iteration. Once the channel was found closed it is not tried again. -/
def HandOff.step (st : HandOff) (req : EmailRequest) (o : SendOutcome) : HandOff :=
  if st.channelClosed then { st with failed := st.failed ++ [req.markCreated] }
  else st.settle req o

/-- `rollback_to_created` -/
def rollbackToCreated (now : Instant) (ids : List Int32) (t : Table RequestRow) :
    Table RequestRow :=
  if ids.isEmpty then t
  else t.update (fun id _ => id ∈ ids.map Int32.toInt) fun _ row =>
    { row with status := EmailMessageStatus.created.asI32, updatedAt := now.stamp }

/-! ## The call as a whole -/

/-- What one call meets on its way: the clock and the faults of its two
transactions, the channel's answers, and its rollback statement. -/
structure CreateEnv where
  contentsClock : ℕ → Instant
  contentsTx : TxFaults
  requestsClock : ℕ → Instant
  requestsTx : TxFaults
  outcomes : ℕ → SendOutcome
  rollbackNow : Instant
  rollbackFails : Bool

/-- No statement fails; the channel may be closed. -/
structure CreateEnv.StatementsSucceed (env : CreateEnv) : Prop where
  contentsTx : env.contentsTx = .none
  requestsTx : env.requestsTx = .none
  rollback : env.rollbackFails = false

/-- Nothing fails, and the channel takes every request. -/
structure CreateEnv.FailureFree (env : CreateEnv) : Prop extends env.StatementsSucceed where
  outcomes : ∀ i, env.outcomes i = .ok ∨ env.outcomes i = .fullOk

structure CreateResult where
  response : Except AppError CreateMessageResponse
  db : Db
  pushed : List EmailRequest

/-- The loop; `outcomes i` is the channel's answer for the `i`-th request. -/
def handOff (saved : List EmailRequest) (outcomes : ℕ → SendOutcome) : HandOff :=
  saved.zipIdx.foldl (fun st p => st.step p.1 (outcomes p.2)) HandOff.init

def createMessage (E : Env) (env : CreateEnv) (payload : CreateMessageRequest) (db : Db) :
    CreateResult :=
  if payload.messages.isEmpty then ⟨.error (.badRequest "No messages provided"), db, []⟩
  else match EmailContent.saveBatch env.contentsClock env.contentsTx payload.contents
      db.contents with
  | .error e => ⟨.error (.database e), db, []⟩
  | .ok (savedContents, contents) =>
    let db := { db with contents }
    let requests := payload.requests savedContents
    let total := requests.length
    if total > MAX_EMAILS_PER_REQUEST then
      ⟨.error (.badRequest s!"Max {MAX_EMAILS_PER_REQUEST} emails per request"), db, []⟩
    else match EmailRequest.saveBatch E contents env.requestsClock env.requestsTx requests
        db.requests with
    | .error _ => ⟨.ok ⟨total, 0, total, payload.isScheduled⟩, db, []⟩
    | .ok (saved, t) =>
      let response := ⟨total, saved.length, 0, payload.isScheduled⟩
      if payload.isScheduled then ⟨.ok response, { db with requests := t }, []⟩
      else
        let loop := handOff saved env.outcomes
        let ids := loop.failed.filterMap (·.id)
        let t := if env.rollbackFails then t else rollbackToCreated env.rollbackNow ids t
        ⟨.ok response, { db with requests := t }, loop.pushed⟩

end Ses
