import SesSender.Proofs.Drain
import SesSender.Proofs.Rate
import SesSender.Spec.Sender

/-! The sender loop under its limiter and its semaphore: its runs are runs of
the system, and the permits bound what is in flight. -/

namespace Ses

open Calendar

variable {E : Env} {rate : Int32} {p q : Paced} {e : PacedEvent}

/-! ## What one step can do -/

/-- The steps of the system that neither the limiter nor the semaphore sees. -/
def Event.unpaced : Event → Bool
  | .recv => false
  | .spawnTask => false
  | .postSend _ _ => false
  | .senderStops => false
  | .restart => false
  | _ => true

inductive Paced.Step (E : Env) (rate : Int32) (p : Paced) : PacedEvent → Paced → Prop where
  | recv {sys} (phase : p.phase = .receiving) (step : p.sys.step E .recv = some sys) :
      Step E rate p (.sys .recv) { p with sys, phase := .trying }
  | acquired (phase : p.phase = .trying) (token : 0 < p.limiter.bucket.tokens) :
      Step E rate p .tryAcquire
        { p with
          limiter := { p.limiter with bucket := p.limiter.bucket.apply .tryAcquire }
          phase := .admitted }
  | missed (phase : p.phase = .trying) (token : p.limiter.bucket.tokens = 0) :
      Step E rate p .tryAcquire { p with phase := .missed }
  | listen (phase : p.phase = .missed) : Step E rate p .listen { p with phase := .waiting }
  | refill (nowMs) (sleeping : p.refill = .sleeping) :
      Step E rate p (.refill nowMs)
        { p with limiter := p.limiter.tickAt nowMs, refill := .updated }
  | notify (updated : p.refill = .updated) :
      Step E rate p .notify
        { p with refill := .sleeping
                 phase := if p.phase = .waiting then .trying else p.phase }
  | spawned {sys} (phase : p.phase = .admitted) (permit : 0 < p.permits)
      (step : p.sys.step E .spawnTask = some sys) :
      Step E rate p (.sys .spawnTask)
        { p with sys, phase := .receiving, permits := p.permits - 1 }
  | finished {k ok sys} (step : p.sys.step E (.postSend k ok) = some sys) :
      Step E rate p (.sys (.postSend k ok)) { p with sys, permits := p.permits + 1 }
  | senderStops {sys} (step : p.sys.step E .senderStops = some sys) :
      Step E rate p (.sys .senderStops) { p with sys, phase := .receiving }
  | boot {sys} (nowMs) (step : p.sys.step E .restart = some sys) :
      Step E rate p (.boot nowMs) (.boot rate sys nowMs)
  | other {e sys} (unpaced : e.unpaced = true) (step : p.sys.step E e = some sys) :
      Step E rate p (.sys e) { p with sys }

theorem Paced.Step.of_step (h : p.step E rate e = some q) : p.Step E rate e q := by
  cases e with
  | tryAcquire =>
    simp only [Paced.step] at h
    split at h
    · rename_i phase
      obtain rfl := Option.some.inj h
      unfold TokenBucket.tryAcquire
      by_cases token : 0 < p.limiter.bucket.tokens
      · have := @Paced.Step.acquired E rate p phase token
        simpa [TokenBucket.apply, TokenBucket.tryAcquire, token] using this
      · have := @Paced.Step.missed E rate p phase (by omega)
        simpa [token] using this
    · cases h
  | listen =>
    simp only [Paced.step] at h
    split at h
    · obtain rfl := Option.some.inj h
      exact .listen ‹_›
    · cases h
  | refill nowMs =>
    simp only [Paced.step] at h
    split at h
    · obtain rfl := Option.some.inj h
      exact .refill nowMs ‹_›
    · cases h
  | notify =>
    simp only [Paced.step] at h
    split at h
    · obtain rfl := Option.some.inj h
      exact .notify ‹_›
    · cases h
  | boot nowMs =>
    simp only [Paced.step, Option.map_eq_some_iff] at h
    obtain ⟨sys, hs, rfl⟩ := h
    exact .boot nowMs hs
  | sys e =>
    cases e with
    | recv =>
      simp only [Paced.step] at h
      split at h
      · obtain ⟨sys, hs, rfl⟩ := Option.map_eq_some_iff.1 h
        exact .recv ‹_› hs
      · cases h
    | spawnTask =>
      simp only [Paced.step] at h
      split at h
      · rename_i hphase
        obtain ⟨sys, hs, rfl⟩ := Option.map_eq_some_iff.1 h
        exact .spawned hphase.1 hphase.2 hs
      · cases h
    | postSend k ok =>
      simp only [Paced.step, Option.map_eq_some_iff] at h
      obtain ⟨sys, hs, rfl⟩ := h
      exact .finished hs
    | senderStops =>
      simp only [Paced.step, Option.map_eq_some_iff] at h
      obtain ⟨sys, hs, rfl⟩ := h
      exact .senderStops hs
    | restart => cases h
    | _ =>
      simp only [Paced.step, Option.map_eq_some_iff] at h
      obtain ⟨sys, hs, rfl⟩ := h
      exact .other rfl hs

/-- A paced step is a step of the system, or leaves it as it is. -/
theorem Paced.Step.project (hs : p.Step E rate e q) :
    Exec.run (Sys.step E) p.sys e.event.toList = some q.sys := by
  have hone : ∀ {e : Event} {s t : Sys}, s.step E e = some t →
      Exec.run (Sys.step E) s [e] = some t :=
    fun h => Exec.run_cons.2 ⟨_, h, Exec.run_nil.2 rfl⟩
  cases hs with
  | recv phase step => exact hone step
  | spawned phase permit step => exact hone step
  | finished step => exact hone step
  | senderStops step => exact hone step
  | boot nowMs step => exact hone step
  | other unpaced step => exact hone step
  | _ => rfl

theorem paced_project {evs : List PacedEvent} (h : Exec.run (Paced.step E rate) p evs = some q) :
    Exec.run (Sys.step E) p.sys (evs.filterMap PacedEvent.event) = some q.sys :=
  Exec.run_project (π := Paced.sys) (φ := PacedEvent.event) (fun h => (Paced.Step.of_step h).project) h

/-! ## Permits -/

section Permits

variable {s t : Sys}

/-- Replacing a task that has not ended. -/
theorem Sys.liveTasks_setTask {k : ℕ} {task₀ : SendTask} (hk : s.tasks[k]? = some task₀)
    (h₀ : task₀.isDone = false) (task : SendTask) :
    (s.setTask k task).liveTasks + 1 = s.liveTasks + (!task.isDone).toNat := by
  obtain ⟨hlt, hget⟩ := List.getElem?_eq_some_iff.1 hk
  have hpos : 0 < s.liveTasks :=
    List.countP_pos_iff.2 ⟨task₀, List.mem_of_getElem? hk, by rw [h₀]; rfl⟩
  unfold Sys.liveTasks Sys.setTask at *
  rw [List.countP_set hlt, hget, h₀]
  cases task.isDone <;> simp <;> omega

theorem Sys.Step.unpaced_same {e : Event} (hs : s.Step E e t) (hu : e.unpaced = true) :
    t.liveTasks = s.liveTasks ∧ t.sender = s.sender := by
  cases hs with
  | recv => cases hu
  | spawnTask => cases hu
  | postSent => cases hu
  | postSendClosed => cases hu
  | senderStops => cases hu
  | restart => cases hu
  | @callSes k req task =>
    have hset := Sys.liveTasks_setTask task rfl (.calling req)
    exact ⟨Nat.add_right_cancel hset, rfl⟩
  | @sesReturn k calls req result task =>
    have hset := Sys.liveTasks_setTask task rfl (.answered (req.answered result))
    exact ⟨Nat.add_right_cancel hset, rfl⟩
  | _ => exact ⟨rfl, rfl⟩

structure Paced.Inv (rate : Int32) (p : Paced) : Prop where
  capacity : p.limiter.bucket.maxPerSec = maxPerSec rate
  tokens : p.limiter.bucket.tokens ≤ maxPerSec rate
  /-- each permit is free or held by a task -/
  permits : p.permits + p.sys.liveTasks = maxPerSec rate * 2
  phase : p.phase = .receiving ↔ p.sys.sender.held = []

theorem Paced.Inv.boot (rate : Int32) (s : Sys) (nowMs : ℕ) (htasks : s.tasks = [])
    (hsender : s.sender = .running none) : (Paced.boot rate s nowMs).Inv rate := by
  refine ⟨rfl, le_rfl, ?_, ?_⟩
  · simp [Paced.boot, Sys.liveTasks, htasks]
  · simp [Paced.boot, hsender, SenderLoop.held]

theorem Paced.Inv.step (hs : p.Step E rate e q) (h : p.Inv rate) : q.Inv rate := by
  cases hs with
  | recv phase step =>
    cases Sys.Step.of_step step with
    | recv => exact { h with phase := by simp [SenderLoop.held] }
  | acquired phase token =>
    have htokens := TokenBucket.tokens_apply_le .tryAcquire (h.capacity ▸ h.tokens)
    rw [h.capacity] at htokens
    have hheld := h.phase
    rw [phase] at hheld
    refine { h with capacity := ?_, tokens := htokens, phase := ?_ }
    · rw [TokenBucket.maxPerSec_apply, h.capacity]
    · simpa using hheld
  | missed phase token =>
    have hheld := h.phase
    rw [phase] at hheld
    exact { h with phase := by simpa using hheld }
  | listen phase =>
    have hheld := h.phase
    rw [phase] at hheld
    exact { h with phase := by simpa using hheld }
  | refill nowMs =>
    have htokens := TokenBucket.tokens_apply_le (p.limiter.tickOp nowMs) (h.capacity ▸ h.tokens)
    rw [h.capacity] at htokens
    exact { h with capacity := (TokenBucket.maxPerSec_apply _ _).trans h.capacity
                   tokens := htokens }
  | notify =>
    have hheld := h.phase
    refine { h with phase := ?_ }
    split_ifs with hw
    · rw [hw] at hheld
      simpa using hheld
    · exact hheld
  | @spawned sys phase permit step =>
    cases Sys.Step.of_step step with
    | spawnTask =>
      have hp := h.permits
      refine { h with permits := ?_, phase := by simp [SenderLoop.held] }
      change p.permits - 1 + List.countP _ (p.sys.tasks ++ [_]) = _
      rw [List.countP_append]
      change p.permits - 1 + (p.sys.liveTasks + 1) = _
      omega
  | finished step =>
    have hp := h.permits
    cases Sys.Step.of_step step with
    | postSent task =>
      have hset := Sys.liveTasks_setTask task rfl .done
      refine { h with permits := ?_ }
      change p.permits + 1 + (p.sys.setTask _ _).liveTasks = _
      change _ = p.sys.liveTasks + 0 at hset
      omega
    | postSendClosed task =>
      have hset := Sys.liveTasks_setTask task rfl .done
      refine { h with permits := ?_ }
      change p.permits + 1 + (p.sys.setTask _ _).liveTasks = _
      change _ = p.sys.liveTasks + 0 at hset
      omega
  | senderStops step =>
    cases Sys.Step.of_step step with
    | senderStops => exact { h with phase := by simp [SenderLoop.held] }
  | boot nowMs step =>
    cases Sys.Step.of_step step with
    | restart => exact .boot rate _ nowMs rfl rfl
  | other unpaced step =>
    obtain ⟨hlive, hsender⟩ := (Sys.Step.of_step step).unpaced_same unpaced
    refine { h with permits := ?_, phase := ?_ }
    · rw [hlive]
      exact h.permits
    · rw [hsender]
      exact h.phase

end Permits

/-! ## How much the memory holds -/

section Bounded

variable {s t : Sys} {e : Event}

/-- What the loop collects is short of a full batch. -/
def PostProcessor.Small : PostProcessor → Prop
  | .collecting batch => batch.length < Receiver.BATCH_SIZE
  | .flushing batch _ => batch.length ≤ Receiver.BATCH_SIZE
  | .draining rest _ => rest.length ≤ Receiver.BATCH_SIZE
  | .stopped => True

theorem PostProcessor.Small.batch_le {post : PostProcessor} (h : post.Small) :
    post.batch.length ≤ Receiver.BATCH_SIZE := by
  cases post with
  | collecting batch => exact Nat.le_of_lt h
  | flushing batch last => exact h
  | draining rest last => exact h
  | stopped => exact Nat.zero_le _

theorem PostProcessor.small_iterate {batch : List EmailRequest}
    (h : batch.length < Receiver.BATCH_SIZE) (elapsed : Bool) (ev : PostEvent) :
    (PostProcessor.iterate batch elapsed ev).Small := by
  cases ev with
  | received req =>
    simp only [PostProcessor.iterate]
    split_ifs with hfull
    · rw [PostProcessor.Small, List.length_append]
      exact h
    · exact not_le.1 fun hle => hfull (Or.inl hle)
  | timeout =>
    simp only [PostProcessor.iterate]
    split_ifs
    · exact Nat.le_of_lt h
    · exact h
  | closed =>
    simp only [PostProcessor.iterate]
    split_ifs
    · trivial
    · exact Nat.le_of_lt h

theorem PostProcessor.small_afterFlush (last : Bool) : (PostProcessor.afterFlush last).Small := by
  cases last
  · exact Nat.zero_lt_succ _
  · trivial

theorem PostProcessor.small_drained {req : EmailRequest} {rest : List EmailRequest}
    (h : (req :: rest).length ≤ Receiver.BATCH_SIZE) (last : Bool) :
    (if rest.isEmpty then PostProcessor.afterFlush last else .draining rest last).Small := by
  split_ifs
  · exact PostProcessor.small_afterFlush last
  · exact (Nat.le_succ _).trans h

structure Sys.Bounded (E : Env) (s : Sys) : Prop where
  sendChan : s.sendChan.queue.length ≤ E.sendChannelBuffer
  postChan : s.postChan.queue.length ≤ E.postSendChannelBuffer
  post : s.post.Small

theorem Channel.push_le {c : Channel} {capacity : ℕ} (room : c.hasRoom capacity = true)
    (req : EmailRequest) : (c.push req).queue.length ≤ capacity := by
  simp only [Channel.hasRoom, Bool.and_eq_true, decide_eq_true_eq] at room
  rw [Channel.push, List.length_append]
  exact room.2

theorem Sys.Bounded.step (h : s.step E e = some t) (hb : s.Bounded E) : t.Bounded E := by
  cases hs : Sys.Step.of_step h with
  | handOffAccepted handler room => exact { hb with sendChan := Channel.push_le room _ }
  | blockedAccepted handler room => exact { hb with sendChan := Channel.push_le room _ }
  | schedulerSent scheduler room => exact { hb with sendChan := Channel.push_le room _ }
  | recv sender queued =>
    have hle := hb.sendChan
    rw [queued] at hle
    exact { hb with sendChan := (Nat.le_succ _).trans hle }
  | postSent => exact { hb with postChan := Channel.push_le (postSend_room h) _ }
  | senderStops => exact { hb with sendChan := Nat.zero_le _ }
  | @postRecv elapsed batch req queue post queued =>
    have hle := hb.postChan
    have hp := hb.post
    rw [queued] at hle
    rw [post] at hp
    exact { hb with postChan := (Nat.le_succ _).trans hle
                    post := PostProcessor.small_iterate hp elapsed (.received req) }
  | @postTimeout elapsed batch post =>
    have hp := hb.post
    rw [post] at hp
    exact { hb with post := PostProcessor.small_iterate hp elapsed .timeout }
  | @postClosed batch post =>
    have hp := hb.post
    rw [post] at hp
    exact { hb with post := PostProcessor.small_iterate hp false .closed }
  | @flushed batch last => exact { hb with post := PostProcessor.small_afterFlush last }
  | @flushFailed batch last ok post =>
    have hp := hb.post
    rw [post] at hp
    exact { hb with post := hp }
  | @updated req rest last post =>
    have hp := hb.post
    rw [post] at hp
    exact { hb with post := PostProcessor.small_drained hp last }
  | @updateFailed req rest last post =>
    have hp := hb.post
    rw [post] at hp
    exact { hb with post := PostProcessor.small_drained hp last }
  | postStops => exact { hb with postChan := Nat.zero_le _, post := trivial }
  | restart => exact ⟨Nat.zero_le _, Nat.zero_le _, Nat.zero_lt_succ _⟩
  | _ => exact { hb with }

theorem Run.bounded {now₀ : Instant} {evs : List Event} (h : Run E now₀ evs s) : s.Bounded E :=
  Exec.run_keeps (fun h hb => hb.step h) h ⟨Nat.zero_le _, Nat.zero_le _, Nat.zero_lt_succ _⟩

/-- A task that has not ended holds one request. -/
theorem Sys.length_tasks (s : Sys) : (s.tasks.flatMap (·.unanswered)).length +
    (s.tasks.flatMap (·.answers)).length = s.liveTasks := by
  unfold Sys.liveTasks
  induction s.tasks with
  | nil => rfl
  | cons task tasks ih =>
    have hone : task.unanswered.length + task.answers.length =
        if (!task.isDone) = true then 1 else 0 := by
      cases task <;> rfl
    rw [List.flatMap_cons, List.flatMap_cons, List.length_append, List.length_append,
      List.countP_cons, ← ih, ← hone]
    omega

theorem Sys.length_atSes_le (s : Sys) : (s.tasks.flatMap (·.atSes)).length ≤
    (s.tasks.flatMap (·.unanswered)).length := by
  induction s.tasks with
  | nil => exact Nat.zero_le _
  | cons task tasks ih =>
    have hone : task.atSes.length ≤ task.unanswered.length := by
      cases task <;> exact Nat.le_of_ble_eq_true rfl
    rw [List.flatMap_cons, List.flatMap_cons, List.length_append, List.length_append]
    exact Nat.add_le_add hone ih

end Bounded

/-! ## Runs -/

section Runs

variable {now₀ : Instant} {nowMs₀ : ℕ} {evs : List PacedEvent}

theorem PacedRun.inv (h : PacedRun E rate now₀ nowMs₀ evs p) : p.Inv rate :=
  Exec.run_keeps (fun h hi => hi.step (Paced.Step.of_step h)) h
    (.boot rate _ nowMs₀ rfl rfl)

/-- The system behind a paced run makes a run of its own. -/
theorem PacedRun.run (h : PacedRun E rate now₀ nowMs₀ evs p) :
    Run E now₀ (evs.filterMap PacedEvent.event) p.sys :=
  paced_project h

/-- A paced run is a run of the system in which each permit is free or with one
task, so that at most two seconds' worth of calls are out, and what the process
holds of the accepted requests, from the channel to the batch, is bounded. -/
theorem in_flight_bounded (hrun : PacedRun E rate now₀ nowMs₀ evs p) :
    Run E now₀ (evs.filterMap PacedEvent.event) p.sys ∧
    p.permits + p.sys.liveTasks = 2 * maxPerSec rate ∧
    (p.sys.tasks.flatMap (·.atSes)).length ≤ 2 * maxPerSec rate ∧
    p.sys.farRequests.length ≤ E.sendChannelBuffer + 1 + 2 * maxPerSec rate +
      E.postSendChannelBuffer + Receiver.BATCH_SIZE := by
  have hpermits := hrun.inv.permits
  have hb := hrun.run.bounded
  have hbatch := hb.post.batch_le
  have hsend := hb.sendChan
  have hpost := hb.postChan
  have hses := p.sys.length_atSes_le
  have htasks := p.sys.length_tasks
  have hheld : p.sys.sender.held.length ≤ 1 := by
    cases p.sys.sender with
    | stopped => exact Nat.zero_le _
    | running held => cases held <;> simp [SenderLoop.held]
  refine ⟨hrun.run, by omega, by omega, ?_⟩
  simp only [Sys.farRequests, List.length_append]
  omega

/-- One mail is handed over, gets its token and its permit, and is at SES. -/
def pacedEvents : List PacedEvent :=
  handOffEvents.map .sys ++ [.sys .recv, .tryAcquire, .sys .spawnTask, .sys (.callSes 0)]

theorem in_flight_bounded_sample : ∃ p, PacedRun sampleEnv 1 newYear 0 pacedEvents p ∧
    (p.sys.tasks.flatMap (·.atSes)).length = 1 ∧ p.permits = 1 ∧
    p.permits + p.sys.liveTasks = 2 * maxPerSec 1 := by
  obtain ⟨p, hp, h⟩ := Exec.exists_of_any (Paced.step sampleEnv 1)
    (Paced.boot 1 (Sys.init newYear) 0) pacedEvents
    (fun p => decide ((p.sys.tasks.flatMap (·.atSes)).length = 1 ∧ p.permits = 1)) (by decide)
  obtain ⟨hses, hpermits⟩ := of_decide_eq_true h
  exact ⟨p, hp, hses, hpermits, (in_flight_bounded hp).2.1⟩

end Runs

end Ses
