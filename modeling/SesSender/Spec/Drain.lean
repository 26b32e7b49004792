import SesSender.Spec.System

/-! The work there is to do in a state of the system: which steps take a request,
a claimed row or a result further on its way, how many of them are left, and
when none is. Answers of SES and the passing of 500 ms count as work. -/

namespace Ses

/-- Whether the event takes something further. A poll of the scheduler, a
timeout that flushes nothing and what comes from outside do not. -/
def Event.works (s : Sys) : Event → Bool
  | .saveContents _ _ _ => true
  | .saveRequests _ _ _ => true
  | .handOff _ _ => true
  | .sendBlocked _ _ => true
  | .rollback _ _ => true
  | .fetchContents _ _ _ => true
  | .schedulerSend _ _ => true
  | .recv => true
  | .spawnTask => true
  | .callSes _ => true
  | .sesReturn _ _ => true
  | .postSend _ _ => true
  | .postRecv _ => true
  | .postTimeout elapsed => elapsed && !s.post.batch.isEmpty
  | .flushBulk _ => true
  | .flushOne _ => true
  | .saveResult _ _ => true
  | _ => false

/-! ## How much work is left -/

/-- How many requests the payload makes at most. -/
def CreateMessageRequest.addresses (payload : CreateMessageRequest) : ℕ :=
  (payload.messages.map fun msg => msg.emails.length).sum

def Handler.weight : Handler → ℕ
  | .received payload => 12 * payload.addresses + 4
  | .contentsSaved payload saved => 12 * (payload.requests saved).length + 3
  | .handOff rest _ _ => 12 * rest.length + 2
  | .blocked _ rest _ _ => 12 * rest.length + 13
  | .rollback _ _ => 1
  | .responded _ => 0
  | .dropped => 0

def Scheduler.weight : Scheduler → ℕ
  | .idle => 0
  | .claimed updated => 11 * updated.length + 1
  | .sending rows => 11 * rows.length

def SendTask.weight : SendTask → ℕ
  | .ready _ => 8
  | .calling _ => 7
  | .answered _ => 6
  | .done => 0

def PostProcessor.weight : PostProcessor → ℕ
  | .collecting batch => 4 * batch.length
  | .flushing batch _ => 2 * batch.length + 1
  | .draining rest _ => 2 * rest.length
  | .stopped => 0

def Sys.weight (s : Sys) : ℕ :=
  (s.handlers.map Handler.weight).sum + (s.schedulers.map Scheduler.weight).sum +
    10 * s.sendChan.queue.length + 9 * s.sender.held.length +
    (s.tasks.map SendTask.weight).sum + 5 * s.postChan.queue.length + s.post.weight +
    s.pending.length

/-- The work an event from outside brings: 12 steps for each address, 11 for each
row picked, and a few for the call itself. -/
def Event.cost : Event → ℕ
  | .request payload => 12 * payload.addresses + 4
  | .claimBatch _ chosen _ => 11 * chosen.length + 1
  | .notify _ _ => 1
  | .getOpen _ => 1
  | _ => 0

/-! ## Nothing left -/

def Handler.settled : Handler → Bool
  | .responded _ => true
  | .dropped => true
  | _ => false

def Scheduler.isIdle : Scheduler → Bool
  | .idle => true
  | _ => false

/-- Every call is answered, and no request, row or result is on its way. -/
structure Sys.Quiet (s : Sys) : Prop where
  handlers : ∀ h ∈ s.handlers, h.settled = true
  schedulers : ∀ c ∈ s.schedulers, c.isIdle = true
  sendChan : s.sendChan.queue = []
  sender : s.sender.held = []
  tasks : ∀ task ∈ s.tasks, task.isDone = true
  postChan : s.postChan.queue = []
  post : s.post.batch = []
  pending : s.pending = []

end Ses
