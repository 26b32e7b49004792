import SesSender.Spec.System

/-! `schedule_pre_send_message`: the one scheduler of a process, with the sleeps
between its polls. Time passes in steps of its own, never beyond what a timer may be
late or a poll may last. -/

namespace Ses

def IDLE_DELAY_SECS : ℕ := 10
def BATCH_DELAY_MS : ℕ := 100
def ERROR_BACKOFF_SECS : ℕ := 5

/-- What the loop sees of the result: `Ok(0)`, `Ok(count)` or an error. -/
inductive PollResult where
  | empty | processed | failed
  deriving DecidableEq

inductive PollPhase where
  | sleeping (wake : ℕ)
  | polling (since : ℕ)

/-- How long after a sleep the first statement of a poll may be done and how long the
rest of the poll may last, in milliseconds. -/
structure Delays where
  late : ℕ
  poll : ℕ

structure Polled where
  sys : Sys
  /-- milliseconds, of a clock that nobody sets -/
  clock : ℕ
  consecutiveEmpty : ℕ
  phase : PollPhase

/-- The process and its scheduler task just started. -/
def Polled.boot (s : Sys) (clock : ℕ) : Polled :=
  { sys := s, clock, consecutiveEmpty := 0, phase := .sleeping clock }

/-- The `match` of the loop, and the sleep it ends in. -/
def Polled.goToSleep (p : Polled) : PollResult → Polled
  | .empty =>
    let consecutiveEmpty := (p.consecutiveEmpty + 1) % 2 ^ 32
    let delay := if consecutiveEmpty > 5 then IDLE_DELAY_SECS * 2 else IDLE_DELAY_SECS
    { p with consecutiveEmpty, phase := .sleeping (p.clock + delay * 1000) }
  | .processed => { p with consecutiveEmpty := 0, phase := .sleeping (p.clock + BATCH_DELAY_MS) }
  | .failed => { p with phase := .sleeping (p.clock + ERROR_BACKOFF_SECS * 1000) }

/-- Whether the second statement of the poll finds rows it can read. -/
def Sys.contentsRead (s : Sys) : Bool :=
  match s.schedulers with
  | [.claimed updated] => (selectScheduled s.db (updated.map (·.id))).isSome
  | _ => false

/-- What `fetch_and_process_batch` returns, when the step from `s` to `t` is its last. -/
def Sys.pollResult (s t : Sys) (e : Event) : Option PollResult :=
  match t.schedulers, e with
  | [.idle], .claimBatch _ chosen ok => some (if ok ∧ chosen = [] then .empty else .failed)
  | [.idle], .fetchContents _ _ ok => some (if ok && s.contentsRead then .processed else .failed)
  | [.idle], .schedulerSend _ ok => some (if ok then .processed else .failed)
  | _, _ => none

def Event.isClaim : Event → Bool
  | .claimBatch _ _ _ => true
  | _ => false

def Polled.after (p : Polled) (e : Event) (t : Sys) : Polled :=
  match p.sys.pollResult t e with
  | some r => { p with sys := t }.goToSleep r
  | none => { p with sys := t, phase := if e.isClaim then .polling p.clock else p.phase }

/-- How far the clock can go before the loop is at its next step. -/
def PollPhase.limit (T : Delays) : PollPhase → ℕ
  | .sleeping wake => wake + T.late
  | .polling since => since + T.poll

def PollPhase.awake (clock : ℕ) : PollPhase → Bool
  | .sleeping wake => wake ≤ clock
  | .polling _ => false

inductive TimedEvent where
  | sys (e : Event)
  | elapse (ms : ℕ)
  /-- the process stops, and `main` is at its loops again that many milliseconds later -/
  | restart (down : ℕ)

def Polled.step (E : Env) (T : Delays) (p : Polled) : TimedEvent → Option Polled
  | .elapse ms =>
    if p.clock + ms ≤ p.phase.limit T then some { p with clock := p.clock + ms } else none
  -- `main` spawns one scheduler
  | .sys .spawnScheduler =>
    if p.sys.schedulers.isEmpty then
      (p.sys.step E .spawnScheduler).map fun sys => { p with sys }
    else none
  -- a restart takes time
  | .sys .restart => none
  | .restart down => (p.sys.step E .restart).map fun sys => Polled.boot sys (p.clock + down)
  | .sys e =>
    if e.isClaim && !p.phase.awake p.clock then none else (p.sys.step E e).map (p.after e)

/-- The step of the system behind a step, if there is one. -/
def TimedEvent.event : TimedEvent → Option Event
  | .sys e => some e
  | .elapse _ => none
  | .restart _ => some .restart

/-- How long the process is down. -/
def TimedEvent.downtime : TimedEvent → ℕ
  | .restart down => down
  | _ => 0

/-- `p` is reached from the first start by the events in order. -/
def PolledRun (E : Env) (T : Delays) (now₀ : Instant) (evs : List TimedEvent) (p : Polled) : Prop :=
  Exec.run (Polled.step E T) (Polled.boot (Sys.init now₀) 0) evs = some p

end Ses
