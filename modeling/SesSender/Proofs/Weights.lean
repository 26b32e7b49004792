import SesSender.Lib.Progress
import SesSender.Proofs.LifeCycle
import SesSender.Spec.Drain

/-! How much work is left in a state, and how each step changes it: work lowers
the weight, an event from outside adds to it at most its cost. -/

namespace Ses

open Calendar

/-! ## Weights -/

section Weights

variable {s : Sys}

theorem CreateMessageRequest.length_requests_le (payload : CreateMessageRequest)
    (saved : List EmailContent) : (payload.requests saved).length ≤ payload.addresses := by
  unfold CreateMessageRequest.requests CreateMessageRequest.addresses
  induction payload.messages generalizing saved with
  | nil => simp
  | cons msg msgs ih =>
    cases saved with
    | nil => simp
    | cons c saved =>
      simp only [List.zip_cons_cons, List.flatMap_cons, List.length_append, List.length_map,
        List.map_cons, List.sum_cons]
      exact Nat.add_le_add_left (ih saved) _

@[simp] theorem Handler.weight_received (payload : CreateMessageRequest) :
    (Handler.received payload).weight = 12 * payload.addresses + 4 := rfl

@[simp] theorem Handler.weight_contentsSaved (payload : CreateMessageRequest)
    (saved : List EmailContent) :
    (Handler.contentsSaved payload saved).weight = 12 * (payload.requests saved).length + 3 := rfl

@[simp] theorem Handler.weight_handOff (rest : List EmailRequest) (loop : HandOff)
    (response : CreateMessageResponse) :
    (Handler.handOff rest loop response).weight = 12 * rest.length + 2 := rfl

@[simp] theorem Handler.weight_blocked (req : EmailRequest) (rest : List EmailRequest)
    (loop : HandOff) (response : CreateMessageResponse) :
    (Handler.blocked req rest loop response).weight = 12 * rest.length + 13 := rfl

@[simp] theorem Handler.weight_rollback (loop : HandOff) (response : CreateMessageResponse) :
    (Handler.rollback loop response).weight = 1 := rfl

@[simp] theorem Handler.weight_responded (response : Except AppError CreateMessageResponse) :
    (Handler.responded response).weight = 0 := rfl

theorem Handler.weight_next_le (rest : List EmailRequest) (loop : HandOff)
    (response : CreateMessageResponse) :
    (Handler.next rest loop response).weight ≤ 12 * rest.length + 2 := by
  unfold Handler.next
  split_ifs <;> simp [Handler.weight]

@[simp] theorem Scheduler.weight_next (rows : List ScheduledEmailRow) :
    (Scheduler.next rows).weight = 11 * rows.length := by
  cases rows <;> rfl

theorem Scheduler.weight_claimed_le (updated : List UpdatedRow) :
    (if updated.isEmpty then Scheduler.idle else .claimed updated).weight ≤
      11 * updated.length + 1 := by
  split_ifs <;> simp [Scheduler.weight]

theorem PostProcessor.weight_received (batch : List EmailRequest) (elapsed : Bool)
    (req : EmailRequest) :
    (PostProcessor.iterate batch elapsed (.received req)).weight ≤ 4 * batch.length + 4 := by
  simp only [PostProcessor.iterate]
  split_ifs <;> simp [PostProcessor.weight] <;> omega

theorem PostProcessor.weight_timeout (batch : List EmailRequest) (elapsed : Bool) :
    (elapsed && !batch.isEmpty).toNat + (PostProcessor.iterate batch elapsed .timeout).weight ≤
      4 * batch.length := by
  cases batch with
  | nil => cases elapsed <;> exact le_rfl
  | cons req rest =>
    cases elapsed with
    | false => exact (Nat.zero_add _).le
    | true =>
      change 1 + (2 * (rest.length + 1) + 1) ≤ 4 * (rest.length + 1)
      omega

theorem PostProcessor.weight_closed (batch : List EmailRequest) :
    (PostProcessor.iterate batch false .closed).weight ≤ 4 * batch.length := by
  cases batch with
  | nil => exact le_rfl
  | cons req rest =>
    change 2 * (rest.length + 1) + 1 ≤ 4 * (rest.length + 1)
    omega

@[simp] theorem PostProcessor.weight_afterFlush (last : Bool) :
    (PostProcessor.afterFlush last).weight = 0 := by
  cases last <;> rfl

theorem PostProcessor.weight_drained (rest : List EmailRequest) (last : Bool) :
    (if rest.isEmpty then PostProcessor.afterFlush last else .draining rest last).weight =
      2 * rest.length := by
  cases rest with
  | nil => exact PostProcessor.weight_afterFlush last
  | cons req rest => rfl

theorem selectScheduled_length_le {db : Db} {ids : List Int} {rows : List ScheduledEmailRow}
    (h : selectScheduled db ids = some rows) : rows.length ≤ ids.length := by
  rw [← List.length_map (fun row : ScheduledEmailRow => row.id), selectScheduled_ids h]
  have hn := nodup_joined db ids
  refine (List.subperm_of_subset hn fun id hid => ?_).length_le
  obtain ⟨r, hr, rfl⟩ := List.mem_map.1 hid
  exact (mem_joined.1 hr).1

/-- Replacing a handler trades its weight for the new one's. -/
theorem Sys.weight_setHandler {i : ℕ} {h₀ : Handler} (hi : s.handlers[i]? = some h₀)
    (h : Handler) : (s.setHandler i h).weight + h₀.weight = s.weight + h.weight := by
  have := Exec.sum_map_set Handler.weight hi h
  simp only [Sys.weight, Sys.setHandler]
  omega

theorem Sys.weight_setScheduler {j : ℕ} {c₀ : Scheduler} (hj : s.schedulers[j]? = some c₀)
    (c : Scheduler) : (s.setScheduler j c).weight + c₀.weight = s.weight + c.weight := by
  have := Exec.sum_map_set Scheduler.weight hj c
  simp only [Sys.weight, Sys.setScheduler]
  omega

theorem Sys.weight_setTask {k : ℕ} {task₀ : SendTask} (hk : s.tasks[k]? = some task₀)
    (task : SendTask) : (s.setTask k task).weight + task₀.weight = s.weight + task.weight := by
  have := Exec.sum_map_set SendTask.weight hk task
  simp only [Sys.weight, Sys.setTask]
  omega

theorem Sys.weight_accept (s : Sys) (req : EmailRequest) :
    (s.accept req).weight = s.weight + 10 := by
  simp only [Sys.weight, Sys.accept, Channel.push, List.length_append, List.length_singleton]
  omega

theorem Sys.weight_post (s : Sys) (post : PostProcessor) :
    Sys.weight { s with post } + s.post.weight = s.weight + post.weight := by
  simp only [Sys.weight]
  omega

end Weights

section Steps

variable {E : Env} {s t : Sys} {e : Event}

/-- No step brings more than its event costs, and work takes some away. -/
theorem Sys.Step.weighs (hs : s.Step E e t) :
    (e.works s).toNat + t.weight ≤ s.weight + e.cost := by
  cases hs with
  | tick => exact le_of_eq (zero_add _)
  | request payload =>
    simp [Event.works, Event.cost, Sys.weight, Handler.weight]
    omega
  | @contentsRefused i _ _ payload response handler =>
    have hset := Sys.weight_setHandler handler (.responded response)
    change 1 + (s.setHandler i _).weight ≤ s.weight
    simp only [Handler.weight_received, Handler.weight_responded] at hset
    omega
  | @contentsSaved i _ _ payload saved contents handler save =>
    have hset := Sys.weight_setHandler handler (.contentsSaved payload saved)
    have hle := payload.length_requests_le saved
    change 1 + (s.setHandler i _).weight ≤ s.weight
    simp only [Handler.weight_received, Handler.weight_contentsSaved] at hset
    omega
  | @requestsRefused i _ _ payload contents response handler =>
    have hset := Sys.weight_setHandler handler (.responded response)
    change 1 + (s.setHandler i _).weight ≤ s.weight
    simp only [Handler.weight_contentsSaved, Handler.weight_responded] at hset
    omega
  | @scheduledSaved i _ _ payload contents saved r response handler scheduled save =>
    have hset := Sys.weight_setHandler handler (.responded response)
    change 1 + (s.setHandler i _).weight ≤ s.weight
    simp only [Handler.weight_contentsSaved, Handler.weight_responded] at hset
    omega
  | @immediateSaved i _ _ payload contents saved r response handler immediate save =>
    obtain ⟨rows, -, -, hsaved⟩ := EmailRequest.saveBatch_spec save
    have hlen : saved.length = (payload.requests contents).length := by
      rw [hsaved, List.length_mapIdx]
    have hset := Sys.weight_setHandler handler (.next saved HandOff.init response)
    have hle := Handler.weight_next_le saved HandOff.init response
    change 1 + (s.setHandler i _).weight ≤ s.weight
    simp only [Handler.weight_contentsSaved] at hset
    omega
  | @handOffFailed i _ req rest loop response handler =>
    have hset := Sys.weight_setHandler handler (.next rest (loop.step req .closed) response)
    have hle := Handler.weight_next_le rest (loop.step req .closed) response
    change 1 + (s.setHandler i _).weight ≤ s.weight
    simp only [Handler.weight_handOff, List.length_cons] at hset
    omega
  | @handOffAccepted i req rest loop response handler room =>
    have hset := Sys.weight_setHandler (s := s.accept req) handler
      (.next rest (loop.settle req .ok) response)
    have hle := Handler.weight_next_le rest (loop.settle req .ok) response
    change 1 + ((s.accept req).setHandler i _).weight ≤ s.weight
    simp only [Handler.weight_handOff, List.length_cons, Sys.weight_accept] at hset
    omega
  | @handOffBlocked i req rest loop response handler =>
    have hset := Sys.weight_setHandler handler (.blocked req rest loop response)
    change 1 + (s.setHandler i _).weight ≤ s.weight
    simp only [Handler.weight_handOff, Handler.weight_blocked, List.length_cons] at hset
    omega
  | @blockedAccepted i req rest loop response handler room =>
    have hset := Sys.weight_setHandler (s := s.accept req) handler
      (.next rest (loop.settle req .fullOk) response)
    have hle := Handler.weight_next_le rest (loop.settle req .fullOk) response
    change 1 + ((s.accept req).setHandler i _).weight ≤ s.weight
    simp only [Handler.weight_blocked, Sys.weight_accept] at hset
    omega
  | @blockedClosed i req rest loop response handler =>
    have hset := Sys.weight_setHandler handler (.next rest (loop.settle req .fullClosed) response)
    have hle := Handler.weight_next_le rest (loop.settle req .fullClosed) response
    change 1 + (s.setHandler i _).weight ≤ s.weight
    simp only [Handler.weight_blocked] at hset
    omega
  | @rolledBack i loop response handler =>
    have hset := Sys.weight_setHandler handler (.responded (.ok response))
    change 1 + (s.setHandler i _).weight ≤ s.weight
    simp only [Handler.weight_rollback, Handler.weight_responded] at hset
    omega
  | @rollbackFailed i loop response handler =>
    have hset := Sys.weight_setHandler handler (.responded (.ok response))
    change 1 + (s.setHandler i _).weight ≤ s.weight
    simp only [Handler.weight_rollback, Handler.weight_responded] at hset
    omega
  | @dropHandler i h handler =>
    have hset : _ = s.weight + 0 := Sys.weight_setHandler handler .dropped
    change 0 + (s.setHandler i _).weight ≤ s.weight
    omega
  | spawnScheduler => simp [Event.works, Event.cost, Sys.weight, Scheduler.weight]
  | claimFailed => exact Nat.add_le_add_left (Nat.zero_le _) _ |>.trans' (by simp [Event.works])
  | @claimUnread j chosen scheduler oldest returned =>
    have hset := Sys.weight_setScheduler scheduler .idle
    change 0 + (s.setScheduler j _).weight ≤ s.weight + (11 * chosen.length + 1)
    simp only [Scheduler.weight] at hset
    omega
  | @claimed j chosen updated scheduler oldest returned =>
    have hset := Sys.weight_setScheduler scheduler
      (if updated.isEmpty then .idle else .claimed updated)
    have hle := Scheduler.weight_claimed_le updated
    have hlen := congrArg List.length (returning_ids returned)
    rw [List.length_map] at hlen
    change 0 + (s.setScheduler j _).weight ≤ s.weight + (11 * chosen.length + 1)
    simp only [Scheduler.weight] at hset hle
    omega
  | @fetchFailed j rows updated scheduler =>
    have hset := Sys.weight_setScheduler scheduler .idle
    change 1 + (s.setScheduler j _).weight ≤ s.weight
    simp only [Scheduler.weight] at hset
    omega
  | @fetchUnread j rows updated scheduler selected =>
    have hset := Sys.weight_setScheduler scheduler .idle
    change 1 + (s.setScheduler j _).weight ≤ s.weight
    simp only [Scheduler.weight] at hset
    omega
  | @fetched j rows rows' updated scheduler selected perm =>
    have hset := Sys.weight_setScheduler scheduler (.next rows)
    have hle := selectScheduled_length_le selected
    have hlen := perm.length_eq
    rw [List.length_map] at hle
    change 1 + (s.setScheduler j _).weight ≤ s.weight
    simp only [Scheduler.weight_next] at hset
    simp only [Scheduler.weight] at hset
    omega
  | @schedulerSent j row rest scheduler room =>
    have hset := Sys.weight_setScheduler (s := s.accept row.toRequest) scheduler (.next rest)
    change 1 + ((s.accept row.toRequest).setScheduler j _).weight ≤ s.weight
    simp only [Scheduler.weight_next, Sys.weight_accept] at hset
    simp only [Scheduler.weight, List.length_cons] at hset
    omega
  | @schedulerClosed j row rest scheduler =>
    have hset := Sys.weight_setScheduler scheduler .idle
    change 1 + (s.setScheduler j _).weight ≤ s.weight
    simp only [Scheduler.weight, List.length_cons] at hset
    omega
  | stopTopic => exact le_of_eq (zero_add _)
  | stopTopicFailed => exact le_of_eq (zero_add _)
  | recv sender queued =>
    simp [Event.works, Event.cost, Sys.weight, sender, queued, SenderLoop.held]
    omega
  | spawnTask sender =>
    simp [Event.works, Event.cost, Sys.weight, sender, SenderLoop.held, SendTask.weight]
    omega
  | @callSes k req task =>
    have hset := Sys.weight_setTask task (.calling req)
    change 1 + (s.setTask k _).weight ≤ s.weight
    simp only [SendTask.weight] at hset
    omega
  | @sesReturn k calls req result task answer =>
    have hset := Sys.weight_setTask task (.answered (req.answered result))
    change 1 + (s.setTask k _).weight ≤ s.weight
    simp only [SendTask.weight] at hset
    omega
  | @postSent k req task =>
    have hset := Sys.weight_setTask task .done
    simp only [SendTask.weight, Sys.weight, Sys.setTask] at hset
    simp only [Event.works, Event.cost, Sys.weight, Sys.setTask, Channel.push,
      List.length_append, List.length_singleton, Bool.toNat_true]
    omega
  | @postSendClosed k req task =>
    have hset := Sys.weight_setTask task .done
    change 1 + (s.setTask k _).weight ≤ s.weight
    simp only [SendTask.weight] at hset
    omega
  | senderStops =>
    simp [Event.works, Event.cost, Sys.weight, Channel.close, SenderLoop.held]
    omega
  | @postRecv elapsed batch req queue post queued =>
    have hle := PostProcessor.weight_received batch elapsed req
    simp only [Event.works, Event.cost, Sys.weight, post, queued, List.length_cons,
      Bool.toNat_true]
    change _ ≤ _ + 4 * batch.length + _ + _
    omega
  | @postTimeout elapsed batch post =>
    have hle := PostProcessor.weight_timeout batch elapsed
    have hset := s.weight_post (.iterate batch elapsed .timeout)
    have hb : s.post.weight = 4 * batch.length := by rw [post]; rfl
    have hworks : (Event.postTimeout elapsed).works s = (elapsed && !batch.isEmpty) := by
      simp only [Event.works, post, PostProcessor.batch]
    rw [hworks]
    change _ ≤ s.weight
    omega
  | @postClosed batch post =>
    have hle := PostProcessor.weight_closed batch
    have hset := s.weight_post (.iterate batch false .closed)
    have hb : s.post.weight = 4 * batch.length := by rw [post]; rfl
    change 0 + _ ≤ s.weight
    omega
  | @flushed batch last r post written =>
    have hset := s.weight_post (.afterFlush last)
    have hb : s.post.weight = 2 * batch.length + 1 := by rw [post]; rfl
    rw [PostProcessor.weight_afterFlush] at hset
    change 1 + Sys.weight { s with post := .afterFlush last } ≤ s.weight
    omega
  | @flushFailed batch last ok post =>
    have hset := s.weight_post (.draining batch last)
    have hb : s.post.weight = 2 * batch.length + 1 := by rw [post]; rfl
    have hd : (PostProcessor.draining batch last).weight = 2 * batch.length := rfl
    change 1 + _ ≤ s.weight
    omega
  | @updated req rest last post =>
    have hset := s.weight_post (if rest.isEmpty then .afterFlush last else .draining rest last)
    have hb : s.post.weight = 2 * (rest.length + 1) := by rw [post]; rfl
    rw [PostProcessor.weight_drained] at hset
    change 1 + Sys.weight { s with post := _ } ≤ s.weight
    omega
  | @updateFailed req rest last post =>
    have hset := s.weight_post (if rest.isEmpty then .afterFlush last else .draining rest last)
    have hb : s.post.weight = 2 * (rest.length + 1) := by rw [post]; rfl
    rw [PostProcessor.weight_drained] at hset
    change 1 + Sys.weight { s with post := _ } ≤ s.weight
    omega
  | postStops =>
    have hset := s.weight_post .stopped
    have hle : Sys.weight { s with post := .stopped, postChan := s.postChan.close } ≤
        Sys.weight { s with post := .stopped } := by
      simp [Sys.weight, Channel.close]
    change 0 + Sys.weight { s with post := .stopped, postChan := s.postChan.close } ≤ s.weight
    have hst : PostProcessor.weight .stopped = 0 := rfl
    omega
  | notifyRefused => exact Nat.add_le_add_left (Nat.zero_le _) _ |>.trans' (by simp [Event.works])
  | notified => simp [Event.works, Event.cost, Sys.weight]; omega
  | openRefused => exact Nat.add_le_add_left (Nat.zero_le _) _ |>.trans' (by simp [Event.works])
  | opened => simp [Event.works, Event.cost, Sys.weight]; omega
  | @resultSaved k r results pending save =>
    have hk := (List.getElem?_eq_some_iff.1 pending).1
    have hlen := List.length_eraseIdx_of_lt hk
    simp only [Event.works, Event.cost, Sys.weight, hlen, Bool.toNat_true]
    omega
  | @resultRefused k r ok pending =>
    have hk := (List.getElem?_eq_some_iff.1 pending).1
    have hlen := List.length_eraseIdx_of_lt hk
    simp only [Event.works, Event.cost, Sys.weight, hlen, Bool.toNat_true]
    omega
  | restart =>
    simp [Event.works, Event.cost, Sys.weight, Sys.boot, Channel.open, SenderLoop.held,
      PostProcessor.weight]

end Steps

end Ses
