import SesSender.Proofs.Growth

/-! What the requests in memory carry. Until SES has answered, a request is as
it was saved or claimed; from then on it carries the answer SES gave for it. -/

namespace Ses

open Calendar

/-- A request of a saved row nobody has an answer for yet. -/
structure Fresh (req : EmailRequest) : Prop where
  id : ∃ id, req.id = some id
  status : req.status = EmailMessageStatus.processed.asI32
  messageId : req.messageId = none
  error : req.error = none

/-- A request that carries what SES returned for it. -/
inductive Answered (returned : List (EmailRequest × Except SendEmailError String)) :
    EmailRequest → Prop where
  | of {req result} (fresh : Fresh req) (mem : (req, result) ∈ returned) :
      Answered returned (req.answered result)

structure Carried (E : Env) (s : Sys) : Prop where
  unsent : ∀ req ∈ s.handlers.flatMap (·.unsent), Fresh req
  failed : ∀ req ∈ s.handlers.flatMap (·.failed), ∃ id, req.id = some id
  queued : ∀ req ∈ s.sendChan.queue, Fresh req
  sender : ∀ req ∈ s.sender.held, Fresh req
  tasks : ∀ req ∈ s.tasks.flatMap (·.unanswered), Fresh req
  answers : ∀ req ∈ s.tasks.flatMap (·.answers), Answered s.hist.returned req
  postQueued : ∀ req ∈ s.postChan.queue, Answered s.hist.returned req
  batch : ∀ req ∈ s.post.batch, Answered s.hist.returned req
  accepted : ∀ req ∈ s.hist.accepted, Fresh req
  called : ∀ call ∈ s.hist.called, Fresh call.1 ∧ call.2 = call.1.body E
  calling : ∀ req ∈ s.tasks.flatMap (·.atSes), req ∈ s.hist.called.map Prod.fst
  returned : ∀ answer ∈ s.hist.returned, answer.1 ∈ s.hist.called.map Prod.fst

variable {returned returned' : List (EmailRequest × Except SendEmailError String)}
  {req : EmailRequest}

theorem Answered.mono (h : Answered returned req) (hr : returned <+: returned') :
    Answered returned' req := by
  cases h with
  | of fresh mem => exact .of fresh (hr.subset mem)

theorem Answered.id (h : Answered returned req) : ∃ id, req.id = some id := by
  cases h with
  | @of req result fresh _ => cases result <;> exact fresh.id

@[simp] theorem EmailRequest.rowid_answered (req : EmailRequest)
    (result : Except SendEmailError String) : (req.answered result).rowid = req.rowid := by
  cases result <;> rfl

theorem ScheduledEmailRow.fresh_toRequest (row : ScheduledEmailRow) : Fresh row.toRequest :=
  ⟨⟨_, rfl⟩, rfl, rfl, rfl⟩

/-- What `save_batch` returns for an immediate payload. -/
theorem fresh_of_save {E : Env} {contents : Table ContentRow} {clock : ℕ → Instant} {F : TxFaults}
    {payload : CreateMessageRequest} {savedContents : List EmailContent}
    {saved : List EmailRequest} {t t' : Table RequestRow} (himm : payload.isScheduled = false)
    (h : EmailRequest.saveBatch E contents clock F (payload.requests savedContents) t =
      .ok (saved, t')) : ∀ req ∈ saved, Fresh req := by
  intro req hreq
  obtain ⟨id, req₀, hreq₀, rfl⟩ := EmailRequest.mem_saved h hreq
  obtain ⟨hst, -, hmessage, herror⟩ := CreateMessageRequest.mem_requests hreq₀
  refine ⟨⟨id, rfl⟩, hst.trans ?_, hmessage, herror⟩
  simp [CreateMessageRequest.status, himm]

@[simp] theorem PostProcessor.batch_received (batch : List EmailRequest) (elapsed : Bool)
    (req : EmailRequest) :
    (PostProcessor.iterate batch elapsed (.received req)).batch = batch ++ [req] := by
  simp only [PostProcessor.iterate]
  split <;> rfl

@[simp] theorem PostProcessor.batch_timeout (batch : List EmailRequest) (elapsed : Bool) :
    (PostProcessor.iterate batch elapsed .timeout).batch = batch := by
  simp only [PostProcessor.iterate]
  split <;> rfl

@[simp] theorem PostProcessor.batch_closed (batch : List EmailRequest) (elapsed : Bool) :
    (PostProcessor.iterate batch elapsed .closed).batch = batch := by
  cases batch <;> rfl

@[simp] theorem PostProcessor.batch_afterFlush (last : Bool) :
    (PostProcessor.afterFlush last).batch = [] := by
  cases last <;> rfl

@[simp] theorem PostProcessor.batch_drained (rest : List EmailRequest) (last : Bool) :
    (if rest.isEmpty then PostProcessor.afterFlush last else .draining rest last).batch = rest := by
  cases rest with
  | nil => simp
  | cons => rfl

variable {E : Env} {s t : Sys} {e : Event}

theorem mem_handlers {i : ℕ} {h : Handler} {req : EmailRequest} {f : Handler → List EmailRequest}
    (hi : s.handlers[i]? = some h) (hr : req ∈ f h) : req ∈ s.handlers.flatMap f :=
  List.mem_flatMap.2 ⟨h, List.mem_of_getElem? hi, hr⟩

theorem mem_tasks {k : ℕ} {task : SendTask} {req : EmailRequest} {f : SendTask → List EmailRequest}
    (hk : s.tasks[k]? = some task) (hr : req ∈ f task) : req ∈ s.tasks.flatMap f :=
  List.mem_flatMap.2 ⟨task, List.mem_of_getElem? hk, hr⟩

/-- A handler replaced by one that holds requests already held. -/
theorem Carried.set_handler (hc : Carried E s) {i : ℕ} {h : Handler}
    (hu : ∀ req ∈ h.unsent, Fresh req) (hf : ∀ req ∈ h.failed, ∃ id, req.id = some id) :
    Carried E (s.setHandler i h) :=
  { hc with
    unsent := fun req hreq => (Lists.mem_flatMap_set hreq).elim (hu req) (hc.unsent req)
    failed := fun req hreq => (Lists.mem_flatMap_set hreq).elim (hf req) (hc.failed req) }

/-- A handler that is done with the request at the head of its hand-off. -/
theorem Carried.settled {u : Sys} (hu : Carried E u) (hc : Carried E s) {i : ℕ} {h : Handler}
    {req : EmailRequest} {rest : List EmailRequest} {loop : HandOff} {o : SendOutcome}
    {response : CreateMessageResponse} (handler : s.handlers[i]? = some h)
    (unsent : h.unsent = req :: rest) (failed : h.failed = loop.failed) (ho : o ≠ .closed) :
    Carried E (u.setHandler i (.next rest (loop.settle req o) response)) := by
  refine hu.set_handler (fun r hr => ?_) fun r hr => ?_
  · rw [Handler.unsent_next] at hr
    exact hc.unsent r (mem_handlers handler (unsent ▸ List.mem_cons_of_mem req hr))
  · rw [Handler.failed_next, HandOff.failed_settle ho] at hr
    exact hc.failed r (mem_handlers handler (failed ▸ hr))

/-- A post-processor that goes on with part of what it held. -/
theorem Carried.set_post (hc : Carried E s) {post : PostProcessor}
    (hsub : ∀ req ∈ post.batch, req ∈ s.post.batch) : Carried E { s with post } :=
  { hc with batch := fun req hreq => hc.batch req (hsub req hreq) }

theorem Carried.task_done (hc : Carried E s) (k : ℕ) : Carried E (s.setTask k .done) :=
  { hc with
    tasks := fun req hreq => (Lists.mem_flatMap_set hreq).elim (by simp [SendTask.unanswered])
      (hc.tasks req)
    answers := fun req hreq => (Lists.mem_flatMap_set hreq).elim (by simp [SendTask.answers])
      (hc.answers req)
    calling := fun req hreq => (Lists.mem_flatMap_set hreq).elim (by simp [SendTask.atSes])
      (hc.calling req) }

theorem Carried.accept (hc : Carried E s) {req : EmailRequest} (hf : Fresh req) :
    Carried E (s.accept req) := by
  have happ : ∀ l : List EmailRequest, (∀ r ∈ l, Fresh r) → ∀ r ∈ l ++ [req], Fresh r := by
    intro l hl r hr
    rcases List.mem_append.1 hr with hr | hr
    · exact hl r hr
    · exact List.mem_singleton.1 hr ▸ hf
  exact { hc with queued := happ _ hc.queued, accepted := happ _ hc.accepted }

theorem Carried.step (hs : s.Step E e t) (hc : Carried E s) : Carried E t := by
  cases hs with
  | tick => exact { hc with }
  | request payload =>
    refine { hc with unsent := ?_, failed := ?_ } <;>
      simp only [List.flatMap_append, List.mem_append] <;> rintro req (hreq | hreq)
    · exact hc.unsent req hreq
    · simp [Handler.unsent] at hreq
    · exact hc.failed req hreq
    · simp [Handler.failed] at hreq
  | contentsRefused => exact hc.set_handler (by simp [Handler.unsent]) (by simp [Handler.failed])
  | @contentsSaved i _ _ payload saved =>
    have := hc.set_handler (i := i) (h := .contentsSaved payload saved) (by simp [Handler.unsent])
      (by simp [Handler.failed])
    exact { this with }
  | requestsRefused => exact hc.set_handler (by simp [Handler.unsent]) (by simp [Handler.failed])
  | @scheduledSaved i _ _ _ _ _ _ response =>
    have := hc.set_handler (i := i) (h := .responded response) (by simp [Handler.unsent])
      (by simp [Handler.failed])
    exact { this with }
  | @immediateSaved i _ _ _ _ saved _ response handler himm save =>
    have := hc.set_handler (i := i) (h := .next saved HandOff.init response)
      (by simpa using fresh_of_save himm save) (by simp [HandOff.init])
    exact { this with }
  | @handOffFailed i _ req rest loop response handler =>
    apply hc.set_handler
    · intro r hr
      rw [Handler.unsent_next] at hr
      exact hc.unsent r (mem_handlers handler (by simp [Handler.unsent, hr]))
    · intro r hr
      simp only [Handler.failed_next, HandOff.failed_step_closed, List.mem_append,
        List.mem_singleton] at hr
      rcases hr with hr | rfl
      · exact hc.failed r (mem_handlers handler hr)
      · exact (hc.unsent req (mem_handlers handler (by simp [Handler.unsent]))).id
  | @handOffAccepted i req rest loop response handler room =>
    have hreq := hc.unsent req (mem_handlers handler (by simp [Handler.unsent]))
    exact (hc.accept hreq).settled hc handler rfl rfl (by decide)
  | @handOffBlocked i req rest loop response handler =>
    refine hc.set_handler (fun r hr => ?_) fun r hr => ?_
    · exact hc.unsent r (mem_handlers handler hr)
    · exact hc.failed r (mem_handlers handler hr)
  | @blockedAccepted i req rest loop response handler room =>
    have hreq := hc.unsent req (mem_handlers handler (by simp [Handler.unsent]))
    exact (hc.accept hreq).settled hc handler rfl rfl (by decide)
  | blockedClosed handler => exact hc.settled hc handler rfl rfl (by decide)
  | @rolledBack i loop response =>
    have := hc.set_handler (i := i) (h := .responded (.ok response)) (by simp [Handler.unsent])
      (by simp [Handler.failed])
    exact { this with }
  | rollbackFailed => exact hc.set_handler (by simp [Handler.unsent]) (by simp [Handler.failed])
  | dropHandler => exact hc.set_handler (by simp [Handler.unsent]) (by simp [Handler.failed])
  | spawnScheduler => exact { hc with }
  | claimFailed => exact hc
  | claimUnread => exact { hc with }
  | claimed => exact { hc with }
  | fetchFailed => exact { hc with }
  | fetchUnread => exact { hc with }
  | fetched => exact { hc with }
  | @schedulerSent j row rest => exact { hc.accept row.fresh_toRequest with }
  | schedulerClosed => exact { hc with }
  | stopTopic => exact { hc with }
  | stopTopicFailed => exact hc
  | @recv req queue sender queued =>
    have hq := hc.queued
    rw [queued] at hq
    refine { hc with queued := fun r hr => hq r (by simp_all), sender := fun r hr => ?_ }
    obtain rfl : r = req := by simpa [SenderLoop.held, eq_comm] using hr
    exact hq r (by simp)
  | @spawnTask req sender =>
    have hreq := hc.sender req (by simp [sender, SenderLoop.held])
    refine { hc with
      sender := by simp [SenderLoop.held], tasks := ?_, answers := ?_, calling := ?_ } <;>
      simp only [List.flatMap_append, List.mem_append] <;> rintro r (hr | hr)
    · exact hc.tasks r hr
    · obtain rfl : r = req := by simpa [SendTask.unanswered] using hr
      exact hreq
    · exact hc.answers r hr
    · simp [SendTask.answers] at hr
    · exact hc.calling r hr
    · simp [SendTask.atSes] at hr
  | @callSes k req task =>
    have hreq := hc.tasks req (mem_tasks task (by simp [SendTask.unanswered]))
    have hgrow : ∀ r ∈ s.hist.called.map Prod.fst,
        r ∈ (s.hist.called ++ [(req, req.body E)]).map Prod.fst := by
      intro r hr
      rw [List.map_append]
      exact List.mem_append_left _ hr
    refine { hc with
      tasks := fun r hr => ?_
      answers := fun r hr => ?_
      called := fun call hcall => ?_
      calling := fun r hr => ?_
      returned := fun answer hans => hgrow _ (hc.returned answer hans) }
    · rcases Lists.mem_flatMap_set hr with hr | hr
      · obtain rfl : r = req := by simpa [SendTask.unanswered] using hr
        exact hreq
      · exact hc.tasks r hr
    · exact (Lists.mem_flatMap_set hr).elim (by simp [SendTask.answers]) (hc.answers r)
    · rcases List.mem_append.1 hcall with hcall | hcall
      · exact hc.called call hcall
      · obtain rfl := List.mem_singleton.1 hcall
        exact ⟨hreq, rfl⟩
    · rcases Lists.mem_flatMap_set hr with hr | hr
      · obtain rfl : r = req := by simpa [SendTask.atSes] using hr
        simp
      · exact hgrow r (hc.calling r hr)
  | @sesReturn k calls req result task answer =>
    have hreq := hc.tasks req (mem_tasks task (by simp [SendTask.unanswered]))
    have hses := hc.calling req (mem_tasks task (by simp [SendTask.atSes]))
    have hmono : s.hist.returned <+: s.hist.returned ++ [(req, result)] := List.prefix_append _ _
    refine { hc with
      tasks := fun r hr => ?_
      answers := fun r hr => ?_
      calling := fun r hr => ?_
      postQueued := fun r hr => (hc.postQueued r hr).mono hmono
      batch := fun r hr => (hc.batch r hr).mono hmono
      returned := fun answer hans => ?_ }
    · exact (Lists.mem_flatMap_set hr).elim (by simp [SendTask.unanswered]) (hc.tasks r)
    · rcases Lists.mem_flatMap_set hr with hr | hr
      · obtain rfl : r = req.answered result := by simpa [SendTask.answers] using hr
        exact .of hreq (by simp)
      · exact (hc.answers r hr).mono hmono
    · exact (Lists.mem_flatMap_set hr).elim (by simp [SendTask.atSes]) (hc.calling r)
    · rcases List.mem_append.1 hans with hans | hans
      · exact hc.returned answer hans
      · obtain rfl := List.mem_singleton.1 hans
        exact hses
  | @postSent k req task =>
    have hreq := hc.answers req (mem_tasks task (by simp [SendTask.answers]))
    refine { hc.task_done k with postQueued := fun r hr => ?_ }
    rcases List.mem_append.1 hr with hr | hr
    · exact hc.postQueued r hr
    · obtain rfl := List.mem_singleton.1 hr
      exact hreq
  | @postSendClosed k => exact hc.task_done k
  | senderStops =>
    exact { hc with queued := by simp [Channel.close], sender := by simp [SenderLoop.held] }
  | @postRecv elapsed batch req queue post queued =>
    have hq := hc.postQueued
    have hb := hc.batch
    rw [queued] at hq
    rw [post] at hb
    refine { hc with postQueued := fun r hr => hq r (by simp_all), batch := fun r hr => ?_ }
    rw [PostProcessor.batch_received] at hr
    rcases List.mem_append.1 hr with hr | hr
    · exact hb r hr
    · exact hq r (by simpa using Or.inl (List.mem_singleton.1 hr))
  | postTimeout post =>
    refine hc.set_post fun r hr => ?_
    rw [PostProcessor.batch_timeout] at hr
    rwa [post]
  | postClosed post =>
    refine hc.set_post fun r hr => ?_
    rw [PostProcessor.batch_closed] at hr
    rwa [post]
  | flushed => exact { hc with batch := by simp }
  | flushFailed ok post => exact hc.set_post fun r hr => by rwa [post]
  | @updated req rest last post =>
    refine { hc with batch := fun r hr => hc.batch r ?_ }
    simp only [PostProcessor.batch_drained] at hr
    rw [post]
    exact List.mem_cons_of_mem req hr
  | @updateFailed req rest last post =>
    refine hc.set_post fun r hr => ?_
    rw [PostProcessor.batch_drained] at hr
    rw [post]
    exact List.mem_cons_of_mem req hr
  | postStops =>
    exact { hc with postQueued := by simp [Channel.close], batch := by simp [PostProcessor.batch] }
  | notifyRefused => exact hc
  | notified => exact { hc with }
  | openRefused => exact hc
  | opened => exact { hc with }
  | resultSaved => exact { hc with }
  | resultRefused => exact { hc with }
  | restart =>
    exact { accepted := hc.accepted, called := hc.called, returned := hc.returned
            unsent := by simp [Sys.boot], failed := by simp [Sys.boot]
            queued := by simp [Sys.boot, Channel.open], sender := by simp [Sys.boot, SenderLoop.held]
            tasks := by simp [Sys.boot], answers := by simp [Sys.boot]
            calling := by simp [Sys.boot]
            postQueued := by simp [Sys.boot, Channel.open]
            batch := by simp [Sys.boot, PostProcessor.batch] }

theorem Carried.init (E : Env) (now : Instant) : Carried E (Sys.init now) := by
  constructor <;> simp [Sys.init, Sys.boot, Channel.open, SenderLoop.held, PostProcessor.batch]

end Ses
