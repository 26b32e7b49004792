import SesSender.Spec.Receiver

/-! `flush_batch` as one call, and `receive_post_send_message` as the loop that
calls it. -/

namespace Ses

open Calendar

/-! ## `flush_batch` -/

/-- How the bulk statement goes: it runs, it fails without effect, or it takes
effect and its answer is lost. -/
inductive BulkOutcome where
  | ran | failed | unanswered
  deriving DecidableEq

/-- What one flush meets: the clock and the outcome of the bulk statement, and
those of the individual updates, numbered by request. -/
structure FlushEnv where
  bulkNow : Instant
  bulk : BulkOutcome
  clock : ℕ → Instant
  updateFails : ℕ → Bool

/-- `bulk_update_all` as the flush sees it: the table it leaves, and whether it
returns `Ok`. Without ids no statement is run. -/
def FlushEnv.runBulk (env : FlushEnv) (batch : List EmailRequest) (t : Table RequestRow) :
    Table RequestRow × Bool :=
  if (batch.filterMap (·.id)).isEmpty then (t, true)
  else match env.bulk, bulkUpdateAll env.bulkNow batch t with
  | .ran, some t' => (t', true)
  | .unanswered, some t' => (t', false)
  | _, _ => (t, false)

/-- `fallback_individual_updates` from the `k`-th request on: each is drained,
whether its update succeeds or not. -/
def fallbackIndividualUpdates (env : FlushEnv) :
    ℕ → List EmailRequest → Table RequestRow → Table RequestRow × List EmailRequest
  | _, [], t => (t, [])
  | k, req :: rest, t =>
    fallbackIndividualUpdates env (k + 1) rest
      (if env.updateFails k then t else req.update (env.clock k) t)

/-- `flush_batch`: the table and the batch it leaves. -/
def flushBatch (env : FlushEnv) (batch : List EmailRequest) (t : Table RequestRow) :
    Table RequestRow × List EmailRequest :=
  if batch.isEmpty then (t, batch)
  else match env.runBulk batch t with
  | (t', true) => (t', [])
  | (t', false) => fallbackIndividualUpdates env 0 batch t'

/-! ## `receive_post_send_message` -/

/-- One iteration: what `timeout(recv)` gives, the test on `last_flush`, and the
flush, should there be one. -/
structure PostTurn where
  event : PostEvent
  elapsed : Bool
  flush : FlushEnv

/-- The loop between two iterations. `flushed` lists the batches it has given to
`flush_batch`; no step reads it. -/
structure PostLoop where
  batch : List EmailRequest
  requests : Table RequestRow
  flushed : List (List EmailRequest)
  running : Bool

def PostLoop.start (t : Table RequestRow) : PostLoop := ⟨[], t, [], true⟩

def PostLoop.flush (l : PostLoop) (env : FlushEnv) : PostLoop :=
  let r := flushBatch env l.batch l.requests
  { l with batch := r.2, requests := r.1, flushed := l.flushed ++ [l.batch] }

/-- One iteration; none is made after the `break`. -/
def PostLoop.turn (l : PostLoop) (turn : PostTurn) : PostLoop :=
  if !l.running then l
  else match turn.event with
  | .received req =>
    let l := { l with batch := l.batch ++ [req] }
    if l.batch.length ≥ Receiver.BATCH_SIZE ∨ turn.elapsed then l.flush turn.flush else l
  | .closed =>
    let l := if !l.batch.isEmpty then l.flush turn.flush else l
    { l with running := false }
  | .timeout => if !l.batch.isEmpty && turn.elapsed then l.flush turn.flush else l

def PostLoop.run (l : PostLoop) (turns : List PostTurn) : PostLoop := turns.foldl PostLoop.turn l

/-- The requests received before the channel is found closed. -/
def received : List PostTurn → List EmailRequest
  | [] => []
  | turn :: turns =>
    match turn.event with
    | .received req => req :: received turns
    | .timeout => received turns
    | .closed => []

end Ses
