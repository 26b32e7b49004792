import SesSender.Spec.Polling

/-! `receive_post_send_message` with its clock: the timeout of each `recv`, and the
age of the last flush. -/

namespace Ses

def BATCH_RECV_TIMEOUT_MS : ℕ := 100
def BATCH_FLUSH_INTERVAL_MS : ℕ := 500

/-- How late the loop may be after a timer and how long a flush may last, in
milliseconds. -/
structure PostDelays where
  late : ℕ
  flush : ℕ

structure TimedPost where
  sys : Sys
  /-- milliseconds, of a clock that nobody sets -/
  clock : ℕ
  /-- when the await or the flush that the loop is in began -/
  since : ℕ
  lastFlush : ℕ

/-- The process and its post-processor just started. -/
def TimedPost.boot (s : Sys) (clock : ℕ) : TimedPost :=
  { sys := s, clock, since := clock, lastFlush := clock }

/-- `last_flush.elapsed() >= flush_interval` -/
def TimedPost.elapsed (p : TimedPost) : Bool :=
  BATCH_FLUSH_INTERVAL_MS ≤ p.clock - p.lastFlush

/-- Whether the loop can still be where it is at that time. -/
def TimedPost.lasts (T : PostDelays) (p : TimedPost) (clock : ℕ) : Bool :=
  match p.sys.post with
  | .collecting _ => clock ≤ p.since + (BATCH_RECV_TIMEOUT_MS + T.late)
  | .flushing _ _ => clock ≤ p.since + T.flush
  | .draining _ _ => clock ≤ p.since + T.flush
  | .stopped => true

/-- Whether the clock lets the step happen as it says. -/
def TimedPost.allows (p : TimedPost) : Event → Bool
  | .postRecv elapsed => elapsed = p.elapsed
  | .postTimeout elapsed => elapsed = p.elapsed && p.since + BATCH_RECV_TIMEOUT_MS ≤ p.clock
  | _ => true

/-- `last_flush` is set after a flush, unless the loop breaks there. -/
def TimedPost.afterFlush (p : TimedPost) (t : Sys) : TimedPost :=
  match t.post with
  | .collecting _ => { p with sys := t, since := p.clock, lastFlush := p.clock }
  | _ => { p with sys := t }

def TimedPost.after (p : TimedPost) (t : Sys) : Event → TimedPost
  | .postRecv _ => { p with sys := t, since := p.clock }
  | .postTimeout _ => { p with sys := t, since := p.clock }
  | .postClosed => { p with sys := t, since := p.clock }
  | .flushBulk _ => p.afterFlush t
  | .flushOne _ => p.afterFlush t
  | _ => { p with sys := t }

def TimedPost.step (E : Env) (T : PostDelays) (p : TimedPost) : TimedEvent → Option TimedPost
  | .elapse ms =>
    if p.lasts T (p.clock + ms) then some { p with clock := p.clock + ms } else none
  | .sys .restart => none
  | .restart down => (p.sys.step E .restart).map fun t => .boot t (p.clock + down)
  | .sys e => if p.allows e then (p.sys.step E e).map fun t => p.after t e else none

/-- `p` is reached from the first start by the events in order. -/
def TimedPostRun (E : Env) (T : PostDelays) (now₀ : Instant) (evs : List TimedEvent)
    (p : TimedPost) : Prop :=
  Exec.run (TimedPost.step E T) (TimedPost.boot (Sys.init now₀) 0) evs = some p

/-! ## What the statements speak of -/

/-- The step ends the loop, or its write of the request fails for good. -/
def TimedPost.drops (req : EmailRequest) (p : TimedPost) : TimedEvent → Bool
  | .restart _ => true
  | .sys .postStops => true
  | .sys (.flushOne false) =>
    match p.sys.post with
    | .draining (first :: _) _ => first = req
    | _ => false
  | _ => false

/-- The loop enters `flush_batch`. -/
def TimedPost.flushes (p : TimedPost) : TimedEvent → Bool
  | .sys (.postRecv elapsed) =>
    p.sys.post.batch.length + 1 ≥ Receiver.BATCH_SIZE || elapsed
  | .sys (.postTimeout elapsed) => !p.sys.post.batch.isEmpty && elapsed
  | .sys .postClosed => !p.sys.post.batch.isEmpty
  | _ => false

def TimedEvent.receives : TimedEvent → Bool
  | .sys (.postRecv _) => true
  | _ => false

def TimedEvent.restarts : TimedEvent → Bool
  | .restart _ => true
  | _ => false

end Ses
