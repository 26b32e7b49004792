import Mathlib.Algebra.Group.Nat.Defs

/-! The rate limiter of `services/receiver.rs`: the token bucket, and the task
that refills it ten times a second. Counters are `u64` and are naturals here,
with the addition taken modulo `2 ^ 64`. -/

namespace Ses

def TOKEN_REFILL_INTERVAL_MS : ℕ := 100

/-- `u64::try_from(max_send_per_second.max(1))` -/
def maxPerSec (maxSendPerSecond : Int32) : ℕ := (max maxSendPerSecond.toInt 1).toNat

structure TokenBucket where
  tokens : ℕ
  maxPerSec : ℕ

def TokenBucket.new (maxPerSec : ℕ) : TokenBucket := ⟨maxPerSec, maxPerSec⟩

/-! Each method is one atomic update. -/

def TokenBucket.tryAcquire (b : TokenBucket) : Bool × TokenBucket :=
  if b.tokens > 0 then (true, { b with tokens := b.tokens - 1 }) else (false, b)

def TokenBucket.refill (b : TokenBucket) (amount : ℕ) : TokenBucket :=
  if b.tokens < b.maxPerSec then
    { b with tokens := min ((b.tokens + amount) % 2 ^ 64) b.maxPerSec }
  else b

def TokenBucket.reset (b : TokenBucket) : TokenBucket := { b with tokens := b.maxPerSec }

/-- `u64::div_ceil` -/
def divCeil (a b : ℕ) : ℕ := if a % b > 0 then a / b + 1 else a / b

inductive BucketOp where
  | tryAcquire
  | refill (amount : ℕ)
  | reset
  deriving DecidableEq

def TokenBucket.apply (b : TokenBucket) : BucketOp → TokenBucket
  | .tryAcquire => b.tryAcquire.2
  | .refill amount => b.refill amount
  | .reset => b.reset

def TokenBucket.run (b : TokenBucket) (ops : List BucketOp) : TokenBucket :=
  ops.foldl TokenBucket.apply b

/-- How many of the attempts succeed. -/
def TokenBucket.acquired : TokenBucket → List BucketOp → ℕ
  | _, [] => 0
  | b, .tryAcquire :: ops => b.tryAcquire.1.toNat + b.tryAcquire.2.acquired ops
  | b, op :: ops => (b.apply op).acquired ops

/-! ## Tasks sharing the bucket -/

inductive TaskOp where
  | tryAcquire
  | refill
  | reset
  deriving DecidableEq

/-- One atomic update by one of the tasks. -/
structure TaskStep where
  task : ℕ
  op : TaskOp
  deriving DecidableEq

/-- The refill task adds `max_per_sec.div_ceil(10)`. -/
def TaskOp.update (maxPerSec : ℕ) : TaskOp → BucketOp
  | .tryAcquire => .tryAcquire
  | .refill => .refill (divCeil maxPerSec 10)
  | .reset => .reset

/-- The updates of the tasks, in the order they take effect. -/
def taskUpdates (maxPerSec : ℕ) (steps : List TaskStep) : List BucketOp :=
  steps.map fun s => s.op.update maxPerSec

/-! ## The refill task -/

/-- The bucket with the clock and the time of the last reset. -/
structure Limiter where
  bucket : TokenBucket
  nowMs : ℕ
  lastRefillMs : ℕ

inductive RateEvent where
  | acquire
  | tick
  deriving DecidableEq

def Limiter.start (maxPerSec startMs : ℕ) : Limiter := ⟨.new maxPerSec, startMs, startMs⟩

/-- What the task does at a tick that finds the clock at `nowMs`. -/
def Limiter.tickOp (l : Limiter) (nowMs : ℕ) : BucketOp :=
  if nowMs - l.lastRefillMs ≥ 1000 then .reset else .refill (divCeil l.bucket.maxPerSec 10)

def Limiter.op (l : Limiter) : RateEvent → BucketOp
  | .acquire => .tryAcquire
  | .tick => l.tickOp (l.nowMs + TOKEN_REFILL_INTERVAL_MS)

/-- An attempt, or a tick 100 ms after the one before. -/
def Limiter.step (l : Limiter) : RateEvent → Limiter
  | .acquire => { l with bucket := l.bucket.apply .tryAcquire }
  | .tick =>
    let nowMs := l.nowMs + TOKEN_REFILL_INTERVAL_MS
    let op := l.tickOp nowMs
    { bucket := l.bucket.apply op, nowMs
      lastRefillMs := if op = .reset then nowMs else l.lastRefillMs }

def Limiter.run (l : Limiter) (evs : List RateEvent) : Limiter := evs.foldl Limiter.step l

/-- The updates of the bucket along a run. -/
def Limiter.ops : Limiter → List RateEvent → List BucketOp
  | _, [] => []
  | l, e :: evs => l.op e :: (l.step e).ops evs

/-- How many sends the run lets through. -/
def Limiter.acquired (l : Limiter) (evs : List RateEvent) : ℕ := l.bucket.acquired (l.ops evs)

/-- In every window of `k` seconds, ten ticks each, at most `M` for the full
bucket and `M` for each second go through. -/
def RateRespected (M k : ℕ) : Prop :=
  ∀ (startMs : ℕ) (before window : List RateEvent), window.count .tick ≤ 10 * k →
    ((Limiter.start M startMs).run before).acquired window ≤ M * (k + 1)

end Ses
