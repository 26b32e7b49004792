import SesSender.Proofs.Statements
import SesSender.Spec.System

/-! What one step can do: the step function read as a relation, one rule for
each branch that yields a state. Every invariant is proved by cases on it. -/

namespace Ses

open Calendar

@[simp] theorem Handler.unsent_next (rest : List EmailRequest) (loop : HandOff)
    (response : CreateMessageResponse) : (Handler.next rest loop response).unsent = rest := by
  cases rest with
  | nil => cases h : loop.failed <;> simp [Handler.next, Handler.unsent, h]
  | cons req rest => rfl

@[simp] theorem Handler.failed_next (rest : List EmailRequest) (loop : HandOff)
    (response : CreateMessageResponse) :
    (Handler.next rest loop response).failed = loop.failed := by
  cases rest with
  | nil => cases h : loop.failed <;> simp [Handler.next, Handler.failed, h]
  | cons req rest => rfl

@[simp] theorem Scheduler.ids_next (rows : List ScheduledEmailRow) :
    (Scheduler.next rows).ids = rows.map (·.id) := by
  cases rows <;> rfl

@[simp] theorem Scheduler.ids_ofUpdated (updated : List UpdatedRow) :
    (if updated.isEmpty then Scheduler.idle else .claimed updated).ids = updated.map (·.id) := by
  cases updated <;> rfl

/-- A request the channel refuses goes to the rollback list. -/
@[simp] theorem HandOff.failed_step_closed (loop : HandOff) (req : EmailRequest) :
    (loop.step req .closed).failed = loop.failed ++ [req.markCreated] := by
  unfold HandOff.step
  split <;> rfl

theorem HandOff.failed_settle {o : SendOutcome} (h : o ≠ .closed) (loop : HandOff)
    (req : EmailRequest) : (loop.settle req o).failed = loop.failed := by
  cases o with
  | closed => exact absurd rfl h
  | _ => rfl

inductive Sys.Step (E : Env) (s : Sys) : Event → Sys → Prop where
  | tick (now) (le : s.now.secs ≤ now.secs) : Step E s (.tick now) { s with now }
  | request (payload) :
      Step E s (.request payload) { s with handlers := s.handlers ++ [.received payload] }
  | contentsRefused {i clock F payload} (response)
      (handler : s.handlers[i]? = some (.received payload)) :
      Step E s (.saveContents i clock F) (s.setHandler i (.responded response))
  | contentsSaved {i clock F payload saved contents}
      (handler : s.handlers[i]? = some (.received payload))
      (save : EmailContent.saveBatch clock F payload.contents s.db.contents =
        .ok (saved, contents)) :
      Step E s (.saveContents i clock F)
        { s.setHandler i (.contentsSaved payload saved) with db := { s.db with contents } }
  | requestsRefused {i clock F payload contents} (response)
      (handler : s.handlers[i]? = some (.contentsSaved payload contents)) :
      Step E s (.saveRequests i clock F) (s.setHandler i (.responded response))
  | scheduledSaved {i clock F payload contents saved t} (response)
      (handler : s.handlers[i]? = some (.contentsSaved payload contents))
      (scheduled : payload.isScheduled = true)
      (save : EmailRequest.saveBatch E s.db.contents clock F (payload.requests contents)
        s.db.requests = .ok (saved, t)) :
      Step E s (.saveRequests i clock F)
        { s.setHandler i (.responded response) with
          db := { s.db with requests := t }
          hist := { s.hist with saved := s.hist.saved ++ saved } }
  | immediateSaved {i clock F payload contents saved t} (response)
      (handler : s.handlers[i]? = some (.contentsSaved payload contents))
      (immediate : payload.isScheduled = false)
      (save : EmailRequest.saveBatch E s.db.contents clock F (payload.requests contents)
        s.db.requests = .ok (saved, t)) :
      Step E s (.saveRequests i clock F)
        { s.setHandler i (.next saved HandOff.init response) with
          db := { s.db with requests := t }
          hist := { s.hist with saved := s.hist.saved ++ saved } }
  | handOffFailed {i o req rest loop response}
      (handler : s.handlers[i]? = some (.handOff (req :: rest) loop response)) :
      Step E s (.handOff i o) (s.setHandler i (.next rest (loop.step req .closed) response))
  | handOffAccepted {i req rest loop response}
      (handler : s.handlers[i]? = some (.handOff (req :: rest) loop response))
      (room : s.sendChan.hasRoom E.sendChannelBuffer = true) :
      Step E s (.handOff i .ok)
        ((s.accept req).setHandler i (.next rest (loop.settle req .ok) response))
  | handOffBlocked {i req rest loop response}
      (handler : s.handlers[i]? = some (.handOff (req :: rest) loop response)) :
      Step E s (.handOff i .full) (s.setHandler i (.blocked req rest loop response))
  | blockedAccepted {i req rest loop response}
      (handler : s.handlers[i]? = some (.blocked req rest loop response))
      (room : s.sendChan.hasRoom E.sendChannelBuffer = true) :
      Step E s (.sendBlocked i true)
        ((s.accept req).setHandler i (.next rest (loop.settle req .fullOk) response))
  | blockedClosed {i req rest loop response}
      (handler : s.handlers[i]? = some (.blocked req rest loop response)) :
      Step E s (.sendBlocked i false)
        (s.setHandler i (.next rest (loop.settle req .fullClosed) response))
  | rolledBack {i loop response} (handler : s.handlers[i]? = some (.rollback loop response)) :
      Step E s (.rollback i true)
        { s.setHandler i (.responded (.ok response)) with
          db := { s.db with
            requests := rollbackToCreated s.now (loop.failed.filterMap (·.id)) s.db.requests } }
  | rollbackFailed {i loop response} (handler : s.handlers[i]? = some (.rollback loop response)) :
      Step E s (.rollback i false) (s.setHandler i (.responded (.ok response)))
  | dropHandler {i h} (handler : s.handlers[i]? = some h) :
      Step E s (.dropHandler i) (s.setHandler i .dropped)
  | spawnScheduler : Step E s .spawnScheduler { s with schedulers := s.schedulers ++ [.idle] }
  | claimFailed (j chosen) : Step E s (.claimBatch j chosen false) s
  | claimUnread {j chosen} (scheduler : s.schedulers[j]? = some .idle)
      (oldest : OldestDue s.now s.db.requests chosen)
      (returned : returning (claim s.now chosen s.db.requests) chosen = none) :
      Step E s (.claimBatch j chosen true)
        { s.setScheduler j .idle with
          db := { s.db with requests := claim s.now chosen s.db.requests } }
  | claimed {j chosen updated} (scheduler : s.schedulers[j]? = some .idle)
      (oldest : OldestDue s.now s.db.requests chosen)
      (returned : returning (claim s.now chosen s.db.requests) chosen = some updated) :
      Step E s (.claimBatch j chosen true)
        { s.setScheduler j (if updated.isEmpty then .idle else .claimed updated) with
          db := { s.db with requests := claim s.now chosen s.db.requests } }
  | fetchFailed {j rows updated} (scheduler : s.schedulers[j]? = some (.claimed updated)) :
      Step E s (.fetchContents j rows false) (s.setScheduler j .idle)
  | fetchUnread {j rows updated} (scheduler : s.schedulers[j]? = some (.claimed updated))
      (selected : selectScheduled s.db (updated.map (·.id)) = none) :
      Step E s (.fetchContents j rows true) (s.setScheduler j .idle)
  | fetched {j rows rows' updated} (scheduler : s.schedulers[j]? = some (.claimed updated))
      (selected : selectScheduled s.db (updated.map (·.id)) = some rows')
      (perm : rows.Perm rows') :
      Step E s (.fetchContents j rows true) (s.setScheduler j (.next rows))
  | schedulerSent {j row rest} (scheduler : s.schedulers[j]? = some (.sending (row :: rest)))
      (room : s.sendChan.hasRoom E.sendChannelBuffer = true) :
      Step E s (.schedulerSend j true) ((s.accept row.toRequest).setScheduler j (.next rest))
  | schedulerClosed {j row rest} (scheduler : s.schedulers[j]? = some (.sending (row :: rest))) :
      Step E s (.schedulerSend j false) (s.setScheduler j .idle)
  | stopTopic (topicId) :
      Step E s (.stopTopic topicId true)
        { s with db := { s.db with
          requests := EmailRequest.stopTopic s.now topicId s.db.requests } }
  | stopTopicFailed (topicId) : Step E s (.stopTopic topicId false) s
  | recv {req queue} (sender : s.sender = .running none) (queued : s.sendChan.queue = req :: queue) :
      Step E s .recv
        { s with sender := .running (some req), sendChan := { s.sendChan with queue } }
  | spawnTask {req} (sender : s.sender = .running (some req)) :
      Step E s .spawnTask { s with sender := .running none, tasks := s.tasks ++ [.ready req] }
  | callSes {k req} (task : s.tasks[k]? = some (.ready req)) :
      Step E s (.callSes k)
        { s.setTask k (.calling req) with
          hist := { s.hist with called := s.hist.called ++ [(req, req.body E)] } }
  | sesReturn {k calls req result} (task : s.tasks[k]? = some (.calling req))
      (answer : sendEmail calls = some result) :
      Step E s (.sesReturn k calls)
        { s.setTask k (.answered (req.answered result)) with
          hist := { s.hist with returned := s.hist.returned ++ [(req, result)] } }
  | postSent {k req} (task : s.tasks[k]? = some (.answered req)) :
      Step E s (.postSend k true) { s.setTask k .done with postChan := s.postChan.push req }
  | postSendClosed {k req} (task : s.tasks[k]? = some (.answered req)) :
      Step E s (.postSend k false) (s.setTask k .done)
  | senderStops : Step E s .senderStops { s with sender := .stopped, sendChan := s.sendChan.close }
  | postRecv {elapsed batch req queue} (post : s.post = .collecting batch)
      (queued : s.postChan.queue = req :: queue) :
      Step E s (.postRecv elapsed)
        { s with post := .iterate batch elapsed (.received req)
                 postChan := { s.postChan with queue } }
  | postTimeout {elapsed batch} (post : s.post = .collecting batch) :
      Step E s (.postTimeout elapsed) { s with post := .iterate batch elapsed .timeout }
  | postClosed {batch} (post : s.post = .collecting batch) :
      Step E s .postClosed { s with post := .iterate batch false .closed }
  | flushed {batch last t} (post : s.post = .flushing batch last)
      (written : bulkUpdateAll s.now batch s.db.requests = some t) :
      Step E s (.flushBulk true)
        { s with db := { s.db with requests := t }, post := .afterFlush last }
  | flushFailed {batch last} (ok) (post : s.post = .flushing batch last) :
      Step E s (.flushBulk ok) { s with post := .draining batch last }
  | updated {req rest last} (post : s.post = .draining (req :: rest) last) :
      Step E s (.flushOne true)
        { s with db := { s.db with requests := req.update s.now s.db.requests }
                 post := if rest.isEmpty then .afterFlush last else .draining rest last }
  | updateFailed {req rest last} (post : s.post = .draining (req :: rest) last) :
      Step E s (.flushOne false)
        { s with post := if rest.isEmpty then .afterFlush last else .draining rest last }
  | postStops : Step E s .postStops { s with post := .stopped, postChan := s.postChan.close }
  | notifyRefused (message ok) : Step E s (.notify message ok) s
  | notified {message ok r}
      (lookup : notificationResult E (!ok) s.db.requests message = .ok r) :
      Step E s (.notify message ok) { s with pending := s.pending ++ [r] }
  | openRefused (query) : Step E s (.getOpen query) s
  | opened {query r} (read : (E.openQuery query).bind openResult = some r) :
      Step E s (.getOpen query) { s with pending := s.pending ++ [r] }
  | resultSaved {k r results} (pending : s.pending[k]? = some r)
      (save : r.save E s.now s.db.requests s.db.results = some results) :
      Step E s (.saveResult k true)
        { s with pending := s.pending.eraseIdx k, db := { s.db with results } }
  | resultRefused {k r} (ok) (pending : s.pending[k]? = some r) :
      Step E s (.saveResult k ok) { s with pending := s.pending.eraseIdx k }
  | restart : Step E s .restart (Sys.boot s.db s.now s.hist)

/-! ## The rules of each operation -/

variable {E : Env} {s t : Sys}

theorem Sys.Step.of_saveContents {i : ℕ} {clock : ℕ → Instant} {F : TxFaults}
    (h : s.saveContents i clock F = some t) : s.Step E (.saveContents i clock F) t := by
  simp only [Sys.saveContents] at h
  split at h
  · rename_i payload hi
    split at h
    · obtain rfl := Option.some.inj h; exact .contentsRefused _ hi
    · split at h
      · cases h
      · split at h
        · obtain rfl := Option.some.inj h; exact .contentsRefused _ hi
        · rename_i saved contents hsave
          obtain rfl := Option.some.inj h
          exact .contentsSaved hi hsave
  · cases h

theorem Sys.Step.of_saveRequests {i : ℕ} {clock : ℕ → Instant} {F : TxFaults}
    (h : s.saveRequests E i clock F = some t) : s.Step E (.saveRequests i clock F) t := by
  simp only [Sys.saveRequests] at h
  split at h
  · rename_i payload contents hi
    split at h
    · obtain rfl := Option.some.inj h; exact .requestsRefused _ hi
    · split at h
      · cases h
      · split at h
        · obtain rfl := Option.some.inj h; exact .requestsRefused _ hi
        · rename_i saved t' hsave
          obtain rfl := Option.some.inj h
          cases hsch : payload.isScheduled with
          | true => exact .scheduledSaved _ hi hsch hsave
          | false => exact .immediateSaved _ hi hsch hsave
  · cases h

theorem Sys.Step.of_handOff {i : ℕ} {o : TrySend} (h : s.handOff E i o = some t) :
    s.Step E (.handOff i o) t := by
  simp only [Sys.handOff] at h
  split at h
  · rename_i req rest loop response hi
    split at h
    · obtain rfl := Option.some.inj h; exact .handOffFailed hi
    · cases o with
      | ok =>
        simp only at h
        split at h
        · rename_i hroom
          obtain rfl := Option.some.inj h
          exact .handOffAccepted hi hroom
        · cases h
      | full =>
        simp only at h
        split at h
        · cases h
        · obtain rfl := Option.some.inj h; exact .handOffBlocked hi
      | closed =>
        simp only at h
        split at h
        · obtain rfl := Option.some.inj h; exact .handOffFailed hi
        · cases h
  · cases h

theorem Sys.Step.of_sendBlocked {i : ℕ} {ok : Bool} (h : s.sendBlocked E i ok = some t) :
    s.Step E (.sendBlocked i ok) t := by
  simp only [Sys.sendBlocked] at h
  split at h
  · rename_i req rest loop response hi
    cases ok with
    | true =>
      simp only [if_true] at h
      split at h
      · rename_i hroom
        obtain rfl := Option.some.inj h
        exact .blockedAccepted hi hroom
      · cases h
    | false =>
      simp only [Bool.false_eq_true, if_false] at h
      split at h
      · obtain rfl := Option.some.inj h; exact .blockedClosed hi
      · cases h
  · cases h

theorem Sys.Step.of_rollback {i : ℕ} {ok : Bool} (h : s.rollback i ok = some t) :
    s.Step E (.rollback i ok) t := by
  simp only [Sys.rollback] at h
  split at h
  · rename_i loop response hi
    obtain rfl := Option.some.inj h
    cases ok with
    | true => exact .rolledBack hi
    | false => exact .rollbackFailed hi
  · cases h

theorem Sys.Step.of_claimBatch {j : ℕ} {chosen : List Int} {ok : Bool}
    (h : s.claimBatch j chosen ok = some t) : s.Step E (.claimBatch j chosen ok) t := by
  simp only [Sys.claimBatch] at h
  split at h
  · rename_i hj
    cases ok with
    | false => obtain rfl := Option.some.inj h; exact .claimFailed j chosen
    | true =>
      simp only [Bool.not_true, Bool.false_eq_true, if_false] at h
      split at h
      · cases h
      · rename_i hold
        obtain rfl := Option.some.inj h
        cases hret : returning (claim s.now chosen s.db.requests) chosen with
        | none => exact .claimUnread hj (not_not.1 hold) hret
        | some updated => exact .claimed hj (not_not.1 hold) hret
  · cases h

theorem Sys.Step.of_fetchContents {j : ℕ} {rows : List ScheduledEmailRow} {ok : Bool}
    (h : s.fetchContents j rows ok = some t) : s.Step E (.fetchContents j rows ok) t := by
  simp only [Sys.fetchContents] at h
  split at h
  · rename_i updated hj
    cases ok with
    | false => obtain rfl := Option.some.inj h; exact .fetchFailed hj
    | true =>
      simp only [Bool.not_true, Bool.false_eq_true, if_false] at h
      split at h
      · rename_i hsel
        obtain rfl := Option.some.inj h
        exact .fetchUnread hj hsel
      · rename_i rows' hsel
        split at h
        · rename_i hperm
          obtain rfl := Option.some.inj h
          exact .fetched hj hsel (List.isPerm_iff.1 hperm)
        · cases h
  · cases h

theorem Sys.Step.of_schedulerSend {j : ℕ} {ok : Bool} (h : s.schedulerSend E j ok = some t) :
    s.Step E (.schedulerSend j ok) t := by
  simp only [Sys.schedulerSend] at h
  split at h
  · rename_i row rest hj
    cases ok with
    | true =>
      simp only [if_true] at h
      split at h
      · rename_i hroom
        obtain rfl := Option.some.inj h
        exact .schedulerSent hj hroom
      · cases h
    | false =>
      simp only [Bool.false_eq_true, if_false] at h
      split at h
      · obtain rfl := Option.some.inj h; exact .schedulerClosed hj
      · cases h
  · cases h

theorem Sys.Step.of_recv (h : s.recv = some t) :
    s.Step E .recv t := by
  simp only [Sys.recv] at h
  split at h
  · rename_i req queue hs hq
    obtain rfl := Option.some.inj h
    exact .recv hs hq
  · cases h

theorem Sys.Step.of_spawnTask (h : s.spawnTask = some t) :
    s.Step E .spawnTask t := by
  simp only [Sys.spawnTask] at h
  split at h
  · rename_i req hs
    obtain rfl := Option.some.inj h
    exact .spawnTask hs
  · cases h

theorem Sys.Step.of_callSes {k : ℕ} (h : s.callSes E k = some t) :
    s.Step E (.callSes k) t := by
  simp only [Sys.callSes] at h
  split at h
  · rename_i req hk
    obtain rfl := Option.some.inj h
    exact .callSes hk
  · cases h

theorem Sys.Step.of_sesReturn {k : ℕ} {calls : List (Except SdkError (Option String))}
    (h : s.sesReturn k calls = some t) : s.Step E (.sesReturn k calls) t := by
  simp only [Sys.sesReturn] at h
  split at h
  · rename_i req result hk hans
    obtain rfl := Option.some.inj h
    exact .sesReturn hk hans
  · cases h

theorem Sys.Step.of_postSend {k : ℕ} {ok : Bool} (h : s.postSend E k ok = some t) :
    s.Step E (.postSend k ok) t := by
  simp only [Sys.postSend] at h
  split at h
  · rename_i req hk
    cases ok with
    | true =>
      simp only [if_true] at h
      split at h
      · obtain rfl := Option.some.inj h; exact .postSent hk
      · cases h
    | false =>
      simp only [Bool.false_eq_true, if_false] at h
      split at h
      · obtain rfl := Option.some.inj h; exact .postSendClosed hk
      · cases h
  · cases h

theorem Sys.Step.of_postRecv {elapsed : Bool} (h : s.postRecv elapsed = some t) :
    s.Step E (.postRecv elapsed) t := by
  simp only [Sys.postRecv] at h
  split at h
  · rename_i batch req queue hp hq
    obtain rfl := Option.some.inj h
    exact .postRecv hp hq
  · cases h

theorem Sys.Step.of_postTimeout {elapsed : Bool} (h : s.postTimeout elapsed = some t) :
    s.Step E (.postTimeout elapsed) t := by
  simp only [Sys.postTimeout] at h
  split at h
  · rename_i batch hp
    obtain rfl := Option.some.inj h
    exact .postTimeout hp
  · cases h

theorem Sys.Step.of_postClosed (h : s.postClosed = some t) :
    s.Step E .postClosed t := by
  simp only [Sys.postClosed] at h
  split at h
  · rename_i batch hp hs
    split at h
    · obtain rfl := Option.some.inj h; exact .postClosed hp
    · cases h
  · cases h

theorem Sys.Step.of_flushBulk {ok : Bool} (h : s.flushBulk ok = some t) :
    s.Step E (.flushBulk ok) t := by
  simp only [Sys.flushBulk] at h
  split at h
  · rename_i batch last hp
    split at h
    · rename_i t' ht'
      obtain rfl := Option.some.inj h
      cases ok with
      | true => exact .flushed hp ht'
      | false => cases ht'
    · obtain rfl := Option.some.inj h; exact .flushFailed ok hp
  · cases h

theorem Sys.Step.of_flushOne {ok : Bool} (h : s.flushOne ok = some t) :
    s.Step E (.flushOne ok) t := by
  simp only [Sys.flushOne] at h
  split at h
  · rename_i req rest last hp
    obtain rfl := Option.some.inj h
    cases ok with
    | true => exact .updated hp
    | false => exact .updateFailed hp
  · cases h

theorem Sys.Step.of_saveResult {k : ℕ} {ok : Bool} (h : s.saveResult E k ok = some t) :
    s.Step E (.saveResult k ok) t := by
  simp only [Sys.saveResult] at h
  split at h
  · rename_i r hk
    split at h
    · obtain rfl := Option.some.inj h; exact .resultRefused ok hk
    · rename_i results hsave
      obtain rfl := Option.some.inj h
      cases ok with
      | true => exact .resultSaved hk hsave
      | false => cases hsave
  · cases h

/-- The rules are all the step function can do. -/
theorem Sys.Step.of_step {e : Event} (h : s.step E e = some t) : s.Step E e t := by
  cases e with
  | tick now =>
    simp only [Sys.step] at h
    split at h
    · rename_i hle
      obtain rfl := Option.some.inj h
      exact .tick now hle
    · cases h
  | request payload => obtain rfl := Option.some.inj h; exact .request payload
  | saveContents i clock F => exact .of_saveContents h
  | saveRequests i clock F => exact .of_saveRequests h
  | handOff i o => exact .of_handOff h
  | sendBlocked i ok => exact .of_sendBlocked h
  | rollback i ok => exact .of_rollback h
  | dropHandler i =>
    simp only [Sys.step] at h
    split at h
    · rename_i hi
      obtain rfl := Option.some.inj h
      exact .dropHandler (List.getElem?_eq_getElem hi)
    · cases h
  | spawnScheduler => obtain rfl := Option.some.inj h; exact .spawnScheduler
  | claimBatch j chosen ok => exact .of_claimBatch h
  | fetchContents j rows ok => exact .of_fetchContents h
  | schedulerSend j ok => exact .of_schedulerSend h
  | stopTopic topicId ok =>
    obtain rfl := Option.some.inj h
    cases ok with
    | true => exact .stopTopic topicId
    | false => exact .stopTopicFailed topicId
  | recv => exact .of_recv h
  | spawnTask => exact .of_spawnTask h
  | callSes k => exact .of_callSes h
  | sesReturn k calls => exact .of_sesReturn h
  | postSend k ok => exact .of_postSend h
  | senderStops => obtain rfl := Option.some.inj h; exact .senderStops
  | postRecv elapsed => exact .of_postRecv h
  | postTimeout elapsed => exact .of_postTimeout h
  | postClosed => exact .of_postClosed h
  | flushBulk ok => exact .of_flushBulk h
  | flushOne ok => exact .of_flushOne h
  | postStops => obtain rfl := Option.some.inj h; exact .postStops
  | notify message ok =>
    obtain rfl := Option.some.inj h
    unfold Sys.notify
    split
    · exact .notifyRefused message ok
    · exact .notified ‹_›
  | getOpen query =>
    obtain rfl := Option.some.inj h
    unfold Sys.getOpen
    split
    · exact .openRefused query
    · exact .opened ‹_›
  | saveResult k ok => exact .of_saveResult h
  | restart => obtain rfl := Option.some.inj h; exact .restart

end Ses
