import SesSender.Lib.Exec
import SesSender.Spec.Events
import SesSender.Spec.Receiver
import SesSender.Spec.Scheduler

/-! The running process: any number of `create_message` calls and scheduler
loops, the send channel, the sender loop and its tasks, the post-send channel,
the post-processor, the webhook, and the database that outlives them. One SQL
statement, or one transaction, is one step; a statement that fails has no
effect. Which token or permit comes when is left open, so a request may leave
the sender loop at any time. -/

namespace Ses

open Calendar

/-! ## The parts -/

/-- A bounded `mpsc` channel. It is closed once its receiver is gone. -/
structure Channel where
  queue : List EmailRequest
  closed : Bool

def Channel.open : Channel := ⟨[], false⟩

def Channel.hasRoom (c : Channel) (capacity : ℕ) : Bool := !c.closed && c.queue.length < capacity

def Channel.push (c : Channel) (req : EmailRequest) : Channel := { c with queue := c.queue ++ [req] }

/-- The receiver is dropped, and with it what is queued. -/
def Channel.close (_ : Channel) : Channel := ⟨[], true⟩

/-- A `create_message` call between two steps. -/
inductive Handler where
  | received (payload : CreateMessageRequest)
  | contentsSaved (payload : CreateMessageRequest) (saved : List EmailContent)
  | handOff (rest : List EmailRequest) (loop : HandOff) (response : CreateMessageResponse)
  | blocked (req : EmailRequest) (rest : List EmailRequest) (loop : HandOff)
      (response : CreateMessageResponse)
  | rollback (loop : HandOff) (response : CreateMessageResponse)
  | responded (response : Except AppError CreateMessageResponse)
  | dropped

/-- Where the call goes with `rest` still to hand off. -/
def Handler.next (rest : List EmailRequest) (loop : HandOff) (response : CreateMessageResponse) :
    Handler :=
  if !rest.isEmpty then .handOff rest loop response
  else if !loop.failed.isEmpty then .rollback loop response
  else .responded (.ok response)

/-- A scheduler loop between two steps of `fetch_and_process_batch`. -/
inductive Scheduler where
  | idle
  | claimed (updated : List UpdatedRow)
  | sending (rows : List ScheduledEmailRow)

def Scheduler.next (rows : List ScheduledEmailRow) : Scheduler :=
  if rows.isEmpty then .idle else .sending rows

/-- `receive_send_message`, waiting on the channel or holding what it received. -/
inductive SenderLoop where
  | running (held : Option EmailRequest)
  | stopped

/-- A task spawned for one request. -/
inductive SendTask where
  | ready (req : EmailRequest)
  | calling (req : EmailRequest)
  | answered (req : EmailRequest)
  | done

/-- What has happened, for the statements to speak of. No step reads it. -/
structure History where
  /-- what `save_batch` has returned -/
  saved : List EmailRequest
  /-- what the send channel has accepted -/
  accepted : List EmailRequest
  /-- the calls of `send_email`, however often each calls SES: the request and the body -/
  called : List (EmailRequest × String)
  /-- the calls of `send_email` that came back -/
  returned : List (EmailRequest × Except SendEmailError String)

structure Sys where
  db : Db
  now : Instant
  handlers : List Handler
  schedulers : List Scheduler
  sendChan : Channel
  sender : SenderLoop
  tasks : List SendTask
  postChan : Channel
  post : PostProcessor
  /-- results looked up or parsed, about to be inserted -/
  pending : List EmailResult
  hist : History

/-- A process that has just started on a database. -/
def Sys.boot (db : Db) (now : Instant) (hist : History) : Sys :=
  { db, now, handlers := [], schedulers := [], sendChan := .open, sender := .running none
    tasks := [], postChan := .open, post := .collecting [], pending := [], hist }

/-- The first start, on the tables the migration creates. -/
def Sys.init (now : Instant) : Sys := Sys.boot Db.empty now ⟨[], [], [], []⟩

/-! ## The steps -/

def Sys.setHandler (s : Sys) (i : ℕ) (h : Handler) : Sys := { s with handlers := s.handlers.set i h }

def Sys.setScheduler (s : Sys) (j : ℕ) (c : Scheduler) : Sys :=
  { s with schedulers := s.schedulers.set j c }

def Sys.setTask (s : Sys) (k : ℕ) (task : SendTask) : Sys := { s with tasks := s.tasks.set k task }

/-- The send channel accepts a request. -/
def Sys.accept (s : Sys) (req : EmailRequest) : Sys :=
  { s with sendChan := s.sendChan.push req
           hist := { s.hist with accepted := s.hist.accepted ++ [req] } }

/-- What `try_send` answers. `Full` does not mean a full queue: the last permits
may be promised to senders already waiting. -/
inductive TrySend where
  | ok | full | closed
  deriving DecidableEq

def Sys.saveContents (s : Sys) (i : ℕ) (clock : ℕ → Instant) (F : TxFaults) : Option Sys :=
  match s.handlers[i]? with
  | some (.received payload) =>
    if payload.messages.isEmpty then
      some (s.setHandler i (.responded (.error (.badRequest "No messages provided"))))
    else if ¬ ∀ k ≤ payload.messages.length, (clock k).secs ≤ s.now.secs then none
    else match EmailContent.saveBatch clock F payload.contents s.db.contents with
    | .error e => some (s.setHandler i (.responded (.error (.database e))))
    | .ok (saved, contents) =>
      some { s.setHandler i (.contentsSaved payload saved) with db := { s.db with contents } }
  | _ => none

def Sys.saveRequests (E : Env) (s : Sys) (i : ℕ) (clock : ℕ → Instant) (F : TxFaults) :
    Option Sys :=
  match s.handlers[i]? with
  | some (.contentsSaved payload savedContents) =>
    let requests := payload.requests savedContents
    let total := requests.length
    if total > MAX_EMAILS_PER_REQUEST then
      some (s.setHandler i (.responded
        (.error (.badRequest s!"Max {MAX_EMAILS_PER_REQUEST} emails per request"))))
    else if ¬ ∀ k ≤ total, (clock k).secs ≤ s.now.secs then none
    else match EmailRequest.saveBatch E s.db.contents clock F requests s.db.requests with
    | .error _ => some (s.setHandler i (.responded (.ok ⟨total, 0, total, payload.isScheduled⟩)))
    | .ok (saved, t) =>
      let response := ⟨total, saved.length, 0, payload.isScheduled⟩
      let h := if payload.isScheduled then .responded (.ok response)
        else Handler.next saved HandOff.init response
      some { s.setHandler i h with
        db := { s.db with requests := t }, hist := { s.hist with saved := s.hist.saved ++ saved } }
  | _ => none

/-- One iteration of the hand-off loop, up to a `send` that has to wait. -/
def Sys.handOff (E : Env) (s : Sys) (i : ℕ) (o : TrySend) : Option Sys :=
  match s.handlers[i]? with
  | some (.handOff (req :: rest) loop response) =>
    if loop.channelClosed then some (s.setHandler i (.next rest (loop.step req .closed) response))
    else match o with
    | .ok =>
      if s.sendChan.hasRoom E.sendChannelBuffer then
        some ((s.accept req).setHandler i (.next rest (loop.settle req .ok) response))
      else none
    | .full =>
      if s.sendChan.closed then none else some (s.setHandler i (.blocked req rest loop response))
    | .closed =>
      if s.sendChan.closed then
        some (s.setHandler i (.next rest (loop.step req .closed) response))
      else none
  | _ => none

/-- The awaited `send` comes back. -/
def Sys.sendBlocked (E : Env) (s : Sys) (i : ℕ) (ok : Bool) : Option Sys :=
  match s.handlers[i]? with
  | some (.blocked req rest loop response) =>
    if ok then
      if s.sendChan.hasRoom E.sendChannelBuffer then
        some ((s.accept req).setHandler i (.next rest (loop.settle req .fullOk) response))
      else none
    else if s.sendChan.closed then
      some (s.setHandler i (.next rest (loop.settle req .fullClosed) response))
    else none
  | _ => none

def Sys.rollback (s : Sys) (i : ℕ) (ok : Bool) : Option Sys :=
  match s.handlers[i]? with
  | some (.rollback loop response) =>
    let t := if ok then rollbackToCreated s.now (loop.failed.filterMap (·.id)) s.db.requests
      else s.db.requests
    some { s.setHandler i (.responded (.ok response)) with db := { s.db with requests := t } }
  | _ => none

/-- Phase 1 of `fetch_and_process_batch`. -/
def Sys.claimBatch (s : Sys) (j : ℕ) (chosen : List Int) (ok : Bool) : Option Sys :=
  match s.schedulers[j]? with
  | some .idle =>
    if !ok then some s
    else if ¬ OldestDue s.now s.db.requests chosen then none
    else
      let t := claim s.now chosen s.db.requests
      let c := match returning t chosen with
        | none => .idle
        | some updated => if updated.isEmpty then .idle else .claimed updated
      some { s.setScheduler j c with db := { s.db with requests := t } }
  | _ => none

/-- Phase 2 of `fetch_and_process_batch`. -/
def Sys.fetchContents (s : Sys) (j : ℕ) (rows : List ScheduledEmailRow) (ok : Bool) : Option Sys :=
  match s.schedulers[j]? with
  | some (.claimed updated) =>
    if !ok then some (s.setScheduler j .idle)
    else match selectScheduled s.db (updated.map (·.id)) with
    | none => some (s.setScheduler j .idle)
    | some rows' => if rows.isPerm rows' then some (s.setScheduler j (.next rows)) else none
  | _ => none

/-- One `tx.send(request).await` of the scheduler. -/
def Sys.schedulerSend (E : Env) (s : Sys) (j : ℕ) (ok : Bool) : Option Sys :=
  match s.schedulers[j]? with
  | some (.sending (row :: rest)) =>
    if ok then
      if s.sendChan.hasRoom E.sendChannelBuffer then
        some ((s.accept row.toRequest).setScheduler j (.next rest))
      else none
    else if s.sendChan.closed then some (s.setScheduler j .idle) else none
  | _ => none

def Sys.recv (s : Sys) : Option Sys :=
  match s.sender, s.sendChan.queue with
  | .running none, req :: queue =>
    some { s with sender := .running (some req), sendChan := { s.sendChan with queue } }
  | _, _ => none

/-- A token and a permit are there: the request moves into a task of its own. -/
def Sys.spawnTask (s : Sys) : Option Sys :=
  match s.sender with
  | .running (some req) =>
    some { s with sender := .running none, tasks := s.tasks ++ [.ready req] }
  | _ => none

def Sys.callSes (E : Env) (s : Sys) (k : ℕ) : Option Sys :=
  match s.tasks[k]? with
  | some (.ready req) =>
    some { s.setTask k (.calling req) with
      hist := { s.hist with called := s.hist.called ++ [(req, req.body E)] } }
  | _ => none

/-- `send_email` returns, after its calls came back as listed. -/
def Sys.sesReturn (s : Sys) (k : ℕ) (calls : List (Except SdkError (Option String))) :
    Option Sys :=
  match s.tasks[k]?, sendEmail calls with
  | some (.calling req), some result =>
    some { s.setTask k (.answered (req.answered result)) with
      hist := { s.hist with returned := s.hist.returned ++ [(req, result)] } }
  | _, _ => none

def Sys.postSend (E : Env) (s : Sys) (k : ℕ) (ok : Bool) : Option Sys :=
  match s.tasks[k]? with
  | some (.answered req) =>
    if ok then
      if s.postChan.hasRoom E.postSendChannelBuffer then
        some { s.setTask k .done with postChan := s.postChan.push req }
      else none
    else if s.postChan.closed then some (s.setTask k .done) else none
  | _ => none

def Sys.postRecv (s : Sys) (elapsed : Bool) : Option Sys :=
  match s.post, s.postChan.queue with
  | .collecting batch, req :: queue =>
    some { s with post := .iterate batch elapsed (.received req)
                  postChan := { s.postChan with queue } }
  | _, _ => none

def Sys.postTimeout (s : Sys) (elapsed : Bool) : Option Sys :=
  match s.post with
  | .collecting batch => some { s with post := .iterate batch elapsed .timeout }
  | _ => none

def SendTask.isDone : SendTask → Bool
  | .done => true
  | _ => false

/-- `recv` gives `None`: every sender of the channel is gone and the queue is empty. -/
def Sys.postClosed (s : Sys) : Option Sys :=
  match s.post, s.sender with
  | .collecting batch, .stopped =>
    if s.tasks.all (·.isDone) && s.postChan.queue.isEmpty then
      some { s with post := .iterate batch false .closed }
    else none
  | _, _ => none

/-- `flush_batch` runs `bulk_update_all` and turns to the fallback when it fails. -/
def Sys.flushBulk (s : Sys) (ok : Bool) : Option Sys :=
  match s.post with
  | .flushing batch last =>
    match (if ok then bulkUpdateAll s.now batch s.db.requests else none) with
    | some t => some { s with db := { s.db with requests := t }, post := .afterFlush last }
    | none => some { s with post := .draining batch last }
  | _ => none

/-- One iteration of `fallback_individual_updates`. -/
def Sys.flushOne (s : Sys) (ok : Bool) : Option Sys :=
  match s.post with
  | .draining (req :: rest) last =>
    let t := if ok then req.update s.now s.db.requests else s.db.requests
    some { s with db := { s.db with requests := t }
                  post := if rest.isEmpty then .afterFlush last else .draining rest last }
  | _ => none

/-- The lookup of a notification; an error is answered and changes nothing. -/
def Sys.notify (E : Env) (s : Sys) (message : String) (ok : Bool) : Sys :=
  match notificationResult E (!ok) s.db.requests message with
  | .error _ => s
  | .ok r => { s with pending := s.pending ++ [r] }

/-- `GET /v1/events/open` up to its `INSERT`. -/
def Sys.getOpen (E : Env) (s : Sys) (query : String) : Sys :=
  match (E.openQuery query).bind openResult with
  | none => s
  | some r => { s with pending := s.pending ++ [r] }

def Sys.saveResult (E : Env) (s : Sys) (k : ℕ) (ok : Bool) : Option Sys :=
  match s.pending[k]? with
  | some r =>
    let s' := { s with pending := s.pending.eraseIdx k }
    match (if ok then r.save E s.now s.db.requests s.db.results else none) with
    | none => some s'
    | some results => some { s' with db := { s.db with results } }
  | none => none

inductive Event where
  | tick (now : Instant)
  | request (payload : CreateMessageRequest)
  | saveContents (i : ℕ) (clock : ℕ → Instant) (F : TxFaults)
  | saveRequests (i : ℕ) (clock : ℕ → Instant) (F : TxFaults)
  | handOff (i : ℕ) (o : TrySend)
  | sendBlocked (i : ℕ) (ok : Bool)
  | rollback (i : ℕ) (ok : Bool)
  | dropHandler (i : ℕ)
  | spawnScheduler
  | claimBatch (j : ℕ) (chosen : List Int) (ok : Bool)
  | fetchContents (j : ℕ) (rows : List ScheduledEmailRow) (ok : Bool)
  | schedulerSend (j : ℕ) (ok : Bool)
  | stopTopic (topicId : String) (ok : Bool)
  | recv
  | spawnTask
  | callSes (k : ℕ)
  | sesReturn (k : ℕ) (calls : List (Except SdkError (Option String)))
  | postSend (k : ℕ) (ok : Bool)
  | senderStops
  | postRecv (elapsed : Bool)
  | postTimeout (elapsed : Bool)
  | postClosed
  | flushBulk (ok : Bool)
  | flushOne (ok : Bool)
  | postStops
  | notify (message : String) (ok : Bool)
  | getOpen (query : String)
  | saveResult (k : ℕ) (ok : Bool)
  | restart

def Sys.step (E : Env) (s : Sys) : Event → Option Sys
  -- the clock does not go back
  | .tick now => if s.now.secs ≤ now.secs then some { s with now } else none
  | .request payload => some { s with handlers := s.handlers ++ [.received payload] }
  | .saveContents i clock F => s.saveContents i clock F
  | .saveRequests i clock F => s.saveRequests E i clock F
  | .handOff i o => s.handOff E i o
  | .sendBlocked i ok => s.sendBlocked E i ok
  | .rollback i ok => s.rollback i ok
  -- the client is gone: the future is dropped at an await point
  | .dropHandler i => if i < s.handlers.length then some (s.setHandler i .dropped) else none
  | .spawnScheduler => some { s with schedulers := s.schedulers ++ [.idle] }
  | .claimBatch j chosen ok => s.claimBatch j chosen ok
  | .fetchContents j rows ok => s.fetchContents j rows ok
  | .schedulerSend j ok => s.schedulerSend E j ok
  | .stopTopic topicId ok =>
    some (if ok then
      { s with db := { s.db with requests := EmailRequest.stopTopic s.now topicId s.db.requests } }
      else s)
  | .recv => s.recv
  | .spawnTask => s.spawnTask
  | .callSes k => s.callSes E k
  | .sesReturn k calls => s.sesReturn k calls
  | .postSend k ok => s.postSend E k ok
  | .senderStops => some { s with sender := .stopped, sendChan := s.sendChan.close }
  | .postRecv elapsed => s.postRecv elapsed
  | .postTimeout elapsed => s.postTimeout elapsed
  | .postClosed => s.postClosed
  | .flushBulk ok => s.flushBulk ok
  | .flushOne ok => s.flushOne ok
  | .postStops => some { s with post := .stopped, postChan := s.postChan.close }
  | .notify message ok => some (s.notify E message ok)
  | .getOpen query => some (s.getOpen E query)
  | .saveResult k ok => s.saveResult E k ok
  -- the process ends and another starts on the database
  | .restart => some (Sys.boot s.db s.now s.hist)

/-- Nothing fails: every statement succeeds, no channel is closed, no future is
dropped, and the process goes on. SES may answer as it likes. -/
def Event.failureFree : Event → Prop
  | .saveContents _ _ F => F = TxFaults.none
  | .saveRequests _ _ F => F = TxFaults.none
  | .handOff _ o => o ≠ .closed
  | .sendBlocked _ ok => ok
  | .rollback _ ok => ok
  | .claimBatch _ _ ok => ok
  | .fetchContents _ _ ok => ok
  | .schedulerSend _ ok => ok
  | .stopTopic _ ok => ok
  | .postSend _ ok => ok
  | .flushBulk ok => ok
  | .flushOne ok => ok
  | .notify _ ok => ok
  | .saveResult _ ok => ok
  | .dropHandler _ => False
  | .senderStops => False
  | .postStops => False
  | .restart => False
  | _ => True

/-- `s` is reached from the first start at `now₀` by the events in order. -/
def Run (E : Env) (now₀ : Instant) (evs : List Event) (s : Sys) : Prop :=
  Exec.run (Sys.step E) (Sys.init now₀) evs = some s

/-! ## What is held in memory -/

/-- Saved and not yet offered to the channel. -/
def Handler.unsent : Handler → List EmailRequest
  | .handOff rest _ _ => rest
  | .blocked req rest _ _ => req :: rest
  | _ => []

/-- On the rollback list. -/
def Handler.failed : Handler → List EmailRequest
  | .handOff _ loop _ => loop.failed
  | .blocked _ _ loop _ => loop.failed
  | .rollback loop _ => loop.failed
  | _ => []

/-- The rowids a call holds. -/
def Handler.ids (h : Handler) : List Int := (h.unsent ++ h.failed).filterMap (·.rowid)

/-- Claimed and not yet sent. -/
def Scheduler.ids : Scheduler → List Int
  | .idle => []
  | .claimed updated => updated.map (·.id)
  | .sending rows => rows.map (·.id)

def SenderLoop.held : SenderLoop → List EmailRequest
  | .running held => held.toList
  | .stopped => []

def SendTask.unanswered : SendTask → List EmailRequest
  | .ready req => [req]
  | .calling req => [req]
  | _ => []

/-- Handed to SES, not yet answered. -/
def SendTask.atSes : SendTask → List EmailRequest
  | .calling req => [req]
  | _ => []

def SendTask.answers : SendTask → List EmailRequest
  | .answered req => [req]
  | _ => []

def PostProcessor.batch : PostProcessor → List EmailRequest
  | .collecting batch => batch
  | .flushing batch _ => batch
  | .draining rest _ => rest
  | .stopped => []

/-- Taken from the table, not yet accepted by the send channel: what each
handler still has to offer or to roll back, what each scheduler has claimed. -/
def Sys.nearIds (s : Sys) : List Int :=
  s.handlers.flatMap (·.ids) ++ s.schedulers.flatMap (·.ids)

/-- Accepted, result not yet written: the send channel, the sender loop and its
tasks, the post-send channel, the batch. -/
def Sys.farRequests (s : Sys) : List EmailRequest :=
  s.sendChan.queue ++ s.sender.held ++ s.tasks.flatMap (·.unanswered) ++
    s.tasks.flatMap (·.answers) ++ s.postChan.queue ++ s.post.batch

def Sys.farIds (s : Sys) : List Int := s.farRequests.filterMap (·.rowid)

def Sys.heldIds (s : Sys) : List Int := s.nearIds ++ s.farIds

end Ses
