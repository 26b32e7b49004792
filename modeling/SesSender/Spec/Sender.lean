import SesSender.Spec.System
import SesSender.Spec.TokenBucket

/-! `receive_send_message` with what holds it back: the token bucket, the task
that refills it, the `Notify` between the two, and the semaphore whose permits
the sender tasks hold. A step of the refill task is split where the loop can run
in between, after the bucket is updated and before the waiters are notified. -/

namespace Ses

/-- Where the loop is with the request it holds. -/
inductive SenderPhase where
  /-- at `rx.recv()`, with no request -/
  | receiving
  /-- about to call `try_acquire` -/
  | trying
  /-- the attempt has failed, `notified()` is not yet called -/
  | missed
  /-- awaiting what `notified()` gave -/
  | waiting
  /-- past `acquire`, at the semaphore -/
  | admitted
  deriving DecidableEq

inductive RefillPhase where
  | sleeping
  /-- the bucket is updated, the waiters are not yet notified -/
  | updated
  deriving DecidableEq

structure Paced where
  sys : Sys
  phase : SenderPhase
  limiter : Limiter
  refill : RefillPhase
  /-- the permits no task holds -/
  permits : ℕ

/-- A tick of the refill task that reads `nowMs` from the clock. -/
def Limiter.tickAt (l : Limiter) (nowMs : ℕ) : Limiter :=
  let op := l.tickOp nowMs
  { bucket := l.bucket.apply op, nowMs
    lastRefillMs := if op = .reset then nowMs else l.lastRefillMs }

/-- The loop and the refill task just started. -/
def Paced.boot (maxSendPerSecond : Int32) (s : Sys) (nowMs : ℕ) : Paced :=
  { sys := s, phase := .receiving, limiter := .start (maxPerSec maxSendPerSecond) nowMs
    refill := .sleeping, permits := maxPerSec maxSendPerSecond * 2 }

inductive PacedEvent where
  | sys (e : Event)
  | tryAcquire
  | listen
  | refill (nowMs : ℕ)
  | notify
  | boot (nowMs : ℕ)

def Paced.step (E : Env) (maxSendPerSecond : Int32) (p : Paced) : PacedEvent → Option Paced
  | .sys .recv =>
    if p.phase = .receiving then (p.sys.step E .recv).map fun sys => { p with sys, phase := .trying }
    else none
  | .tryAcquire =>
    if p.phase = .trying then
      let (ok, bucket) := p.limiter.bucket.tryAcquire
      some { p with limiter := { p.limiter with bucket }
                    phase := if ok then .admitted else .missed }
    else none
  | .listen => if p.phase = .missed then some { p with phase := .waiting } else none
  | .refill nowMs =>
    if p.refill = .sleeping then
      some { p with limiter := p.limiter.tickAt nowMs, refill := .updated }
    else none
  -- `notify_waiters` wakes who has called `notified()`, nobody else
  | .notify =>
    if p.refill = .updated then
      some { p with refill := .sleeping
                    phase := if p.phase = .waiting then .trying else p.phase }
    else none
  | .sys .spawnTask =>
    if p.phase = .admitted ∧ 0 < p.permits then
      (p.sys.step E .spawnTask).map fun sys =>
        { p with sys, phase := .receiving, permits := p.permits - 1 }
    else none
  -- the task ends and drops its permit
  | .sys (.postSend k ok) =>
    (p.sys.step E (.postSend k ok)).map fun sys => { p with sys, permits := p.permits + 1 }
  | .sys .senderStops =>
    (p.sys.step E .senderStops).map fun sys => { p with sys, phase := .receiving }
  | .sys .restart => none
  | .boot nowMs =>
    (p.sys.step E .restart).map fun sys => Paced.boot maxSendPerSecond sys nowMs
  | .sys e => (p.sys.step E e).map fun sys => { p with sys }

/-- The tasks that have not ended. -/
def Sys.liveTasks (s : Sys) : ℕ := s.tasks.countP fun task => !task.isDone

/-- The step of the system behind a paced step, if it makes one. -/
def PacedEvent.event : PacedEvent → Option Event
  | .sys e => some e
  | .boot _ => some .restart
  | _ => none

/-- `p` is reached from the first start by the events in order. -/
def PacedRun (E : Env) (maxSendPerSecond : Int32) (now₀ : Instant) (nowMs₀ : ℕ)
    (evs : List PacedEvent) (p : Paced) : Prop :=
  Exec.run (Paced.step E maxSendPerSecond) (Paced.boot maxSendPerSecond (Sys.init now₀) nowMs₀)
    evs = some p

end Ses
