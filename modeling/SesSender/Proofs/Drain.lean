import SesSender.Proofs.Weights

/-! Nothing gets stuck. Until all is quiet some step of work can be taken,
whatever has failed before, and work alone cannot go on for ever. -/

namespace Ses

open Calendar

/-! ## What keeps the parts moving -/

/-- A hand-off has a request to go on with. -/
def Handler.Live : Handler → Prop
  | .handOff rest _ _ => rest ≠ []
  | _ => True

def Scheduler.Live : Scheduler → Prop
  | .sending rows => rows ≠ []
  | _ => True

/-- A flush has a request to write. -/
def PostProcessor.Live : PostProcessor → Prop
  | .flushing batch _ => batch ≠ []
  | .draining rest _ => rest ≠ []
  | _ => True

/-- The loop has left, or leaves after its flush. -/
def PostProcessor.ended : PostProcessor → Bool
  | .collecting _ => false
  | .flushing _ last => last
  | .draining _ last => last
  | .stopped => true

structure Live (s : Sys) : Prop where
  handlers : ∀ h ∈ s.handlers, h.Live
  schedulers : ∀ c ∈ s.schedulers, c.Live
  /-- without the sender loop the channel is closed -/
  sender : s.sender = .stopped → s.sendChan.queue = [] ∧ s.sendChan.closed = true
  post : s.post.Live
  /-- nobody sends to a post-processor that is gone -/
  ended : s.post.ended = true → s.postChan.queue = [] ∧
    (s.postChan.closed = true ∨ s.sender = .stopped ∧ ∀ task ∈ s.tasks, task.isDone = true)

variable {E : Env} {s t : Sys} {e : Event}

theorem Handler.live_next (rest : List EmailRequest) (loop : HandOff)
    (response : CreateMessageResponse) : (Handler.next rest loop response).Live := by
  cases rest with
  | nil => unfold Handler.next; split_ifs <;> simp_all [Handler.Live]
  | cons req rest => exact List.cons_ne_nil _ _

theorem Scheduler.live_next (rows : List ScheduledEmailRow) : (Scheduler.next rows).Live := by
  cases rows with
  | nil => trivial
  | cons row rows => exact List.cons_ne_nil _ _

theorem PostProcessor.live_iterate (batch : List EmailRequest) (elapsed : Bool) (ev : PostEvent) :
    (PostProcessor.iterate batch elapsed ev).Live := by
  cases ev with
  | received req => simp only [PostProcessor.iterate]; split_ifs <;> simp [PostProcessor.Live]
  | timeout => cases batch <;> cases elapsed <;> simp [PostProcessor.iterate, PostProcessor.Live]
  | closed => cases batch <;> simp [PostProcessor.iterate, PostProcessor.Live]

theorem PostProcessor.not_ended_iterate (batch : List EmailRequest) (elapsed : Bool)
    {ev : PostEvent} (hev : ev ≠ .closed) :
    (PostProcessor.iterate batch elapsed ev).ended = false := by
  cases ev with
  | received req => simp only [PostProcessor.iterate]; split_ifs <;> rfl
  | timeout => simp only [PostProcessor.iterate]; split_ifs <;> rfl
  | closed => exact absurd rfl hev

theorem PostProcessor.live_afterFlush (last : Bool) : (PostProcessor.afterFlush last).Live := by
  cases last <;> trivial

theorem PostProcessor.ended_afterFlush (last : Bool) :
    (PostProcessor.afterFlush last).ended = last := by
  cases last <;> rfl

theorem PostProcessor.live_drained (rest : List EmailRequest) (last : Bool) :
    (if rest.isEmpty then PostProcessor.afterFlush last else .draining rest last).Live := by
  cases rest with
  | nil => exact PostProcessor.live_afterFlush last
  | cons req rest => exact List.cons_ne_nil _ _

theorem PostProcessor.ended_drained (rest : List EmailRequest) (last : Bool) :
    (if rest.isEmpty then PostProcessor.afterFlush last else .draining rest last).ended = last := by
  cases rest with
  | nil => exact PostProcessor.ended_afterFlush last
  | cons req rest => rfl

/-! ## Every step keeps them moving -/

theorem Live.setHandler (hl : Live s) (i : ℕ) {h : Handler} (hh : h.Live) :
    Live (s.setHandler i h) :=
  { hl with handlers := fun h' hm =>
      (List.mem_or_eq_of_mem_set hm).elim (hl.handlers h') (fun heq => heq ▸ hh) }

theorem Live.setScheduler (hl : Live s) (j : ℕ) {c : Scheduler} (hc : c.Live) :
    Live (s.setScheduler j c) :=
  { hl with schedulers := fun c' hm =>
      (List.mem_or_eq_of_mem_set hm).elim (hl.schedulers c') (fun heq => heq ▸ hc) }

/-- A task goes on, which it only does before it is done. -/
theorem Live.setTask (hl : Live s) {k : ℕ} {task₀ : SendTask} (hk : s.tasks[k]? = some task₀)
    (h₀ : task₀.isDone = false) (task : SendTask) : Live (s.setTask k task) := by
  refine { hl with ended := fun hend => ⟨(hl.ended hend).1, (hl.ended hend).2.imp_right ?_⟩ }
  rintro ⟨-, hdone⟩
  rw [hdone task₀ (List.mem_of_getElem? hk)] at h₀
  cases h₀

theorem Live.accept (hl : Live s) {req : EmailRequest} {capacity : ℕ}
    (room : s.sendChan.hasRoom capacity = true) : Live (s.accept req) := by
  refine { hl with sender := fun hst => ?_ }
  simp [Channel.hasRoom, (hl.sender hst).2] at room

theorem Live.setPost (hl : Live s) (post : PostProcessor) (hp : post.Live)
    (hend : post.ended = s.post.ended) : Live { s with post } :=
  { hl with post := hp, ended := fun h => hl.ended (hend ▸ h) }

/-- While the sender loop runs, only a closed channel keeps results away. -/
theorem Live.closed_of_running (hl : Live s) {held : Option EmailRequest}
    (hr : s.sender = .running held) (hend : s.post.ended = true) : s.postChan.closed = true := by
  rcases (hl.ended hend).2 with hclosed | ⟨hst, -⟩
  · exact hclosed
  · rw [hr] at hst
    cases hst

theorem postSend_room {k : ℕ} (h : s.postSend E k true = some t) :
    s.postChan.hasRoom E.postSendChannelBuffer = true := by
  unfold Sys.postSend at h
  split at h
  · simp only [if_true] at h
    split at h
    · assumption
    · cases h
  · cases h

theorem postClosed_ready (h : s.postClosed = some t) : s.sender = .stopped ∧
    (∀ task ∈ s.tasks, task.isDone = true) ∧ s.postChan.queue = [] := by
  unfold Sys.postClosed at h
  split at h
  · rename_i hst
    split at h
    · rename_i hready
      simp only [Bool.and_eq_true, List.all_eq_true, List.isEmpty_iff] at hready
      exact ⟨hst, hready⟩
    · cases h
  · cases h

theorem Live.step (h : s.step E e = some t) (hl : Live s) : Live t := by
  cases hs : Sys.Step.of_step h with
  | tick => exact { hl with }
  | request payload =>
    refine { hl with handlers := fun h hm => ?_ }
    rcases List.mem_append.1 hm with hm | hm
    · exact hl.handlers h hm
    · obtain rfl := List.mem_singleton.1 hm
      trivial
  | @contentsRefused i _ _ _ response => exact hl.setHandler i trivial
  | @contentsSaved i _ _ payload saved =>
    exact { hl.setHandler i (h := .contentsSaved payload saved) trivial with }
  | @requestsRefused i => exact hl.setHandler i trivial
  | @scheduledSaved i _ _ _ _ _ _ response =>
    exact { hl.setHandler i (h := .responded response) trivial with }
  | @immediateSaved i _ _ _ _ saved _ response =>
    exact { hl.setHandler i (Handler.live_next saved HandOff.init response) with }
  | @handOffFailed i => exact hl.setHandler i (Handler.live_next _ _ _)
  | @handOffAccepted i req rest loop response handler room =>
    exact (hl.accept room).setHandler i (Handler.live_next _ _ _)
  | @handOffBlocked i => exact hl.setHandler i trivial
  | @blockedAccepted i req rest loop response handler room =>
    exact (hl.accept room).setHandler i (Handler.live_next _ _ _)
  | @blockedClosed i => exact hl.setHandler i (Handler.live_next _ _ _)
  | @rolledBack i _ response =>
    exact { hl.setHandler i (h := .responded (.ok response)) trivial with }
  | @rollbackFailed i => exact hl.setHandler i trivial
  | @dropHandler i => exact hl.setHandler i trivial
  | spawnScheduler =>
    refine { hl with schedulers := fun c hm => ?_ }
    rcases List.mem_append.1 hm with hm | hm
    · exact hl.schedulers c hm
    · obtain rfl := List.mem_singleton.1 hm
      trivial
  | claimFailed => exact hl
  | @claimUnread j => exact { hl.setScheduler j (c := .idle) trivial with }
  | @claimed j chosen updated =>
    have hc : (if updated.isEmpty then Scheduler.idle else .claimed updated).Live := by
      split_ifs <;> trivial
    exact { hl.setScheduler j hc with }
  | @fetchFailed j => exact hl.setScheduler j trivial
  | @fetchUnread j => exact hl.setScheduler j trivial
  | @fetched j => exact hl.setScheduler j (Scheduler.live_next _)
  | @schedulerSent j row rest scheduler room =>
    exact (hl.accept room).setScheduler j (Scheduler.live_next _)
  | @schedulerClosed j => exact hl.setScheduler j trivial
  | stopTopic => exact { hl with }
  | stopTopicFailed => exact hl
  | recv sender =>
    have hclosed := hl.closed_of_running sender
    exact { hl with sender := nofun, ended := fun hend => ⟨(hl.ended hend).1, Or.inl (hclosed hend)⟩ }
  | spawnTask sender =>
    have hclosed := hl.closed_of_running sender
    exact { hl with sender := nofun, ended := fun hend => ⟨(hl.ended hend).1, Or.inl (hclosed hend)⟩ }
  | @callSes k req task => exact { hl.setTask task rfl (.calling req) with }
  | @sesReturn k calls req result task =>
    exact { hl.setTask task rfl (.answered (req.answered result)) with }
  | @postSent k req task =>
    have room := postSend_room h
    have hset := hl.setTask task rfl .done
    refine { hset with ended := fun hend => ?_ }
    rcases (hl.ended hend).2 with hclosed | ⟨-, hdone⟩
    · simp [Channel.hasRoom, hclosed] at room
    · have := hdone _ (List.mem_of_getElem? task)
      cases this
  | postSendClosed task => exact hl.setTask task rfl .done
  | senderStops =>
    refine { hl with sender := fun _ => ⟨rfl, rfl⟩, ended := fun hend => ?_ }
    exact ⟨(hl.ended hend).1, (hl.ended hend).2.imp_right fun hst => ⟨rfl, hst.2⟩⟩
  | @postRecv elapsed batch req queue post queued =>
    have hp := PostProcessor.live_iterate batch elapsed (.received req)
    refine { hl with post := hp, ended := fun hend => ?_ }
    rw [PostProcessor.not_ended_iterate batch elapsed (by simp)] at hend
    cases hend
  | @postTimeout elapsed batch post =>
    have hp := PostProcessor.live_iterate batch elapsed .timeout
    refine { hl with post := hp, ended := fun hend => ?_ }
    rw [PostProcessor.not_ended_iterate batch elapsed (by simp)] at hend
    cases hend
  | @postClosed batch post =>
    obtain ⟨hst, hdone, hqueue⟩ := postClosed_ready h
    have hp := PostProcessor.live_iterate batch false .closed
    exact { hl with post := hp, ended := fun _ => ⟨hqueue, Or.inr ⟨hst, hdone⟩⟩ }
  | @flushed batch last r post written =>
    have hend : (PostProcessor.afterFlush last).ended = s.post.ended := by
      rw [PostProcessor.ended_afterFlush, post]; rfl
    exact { hl.setPost _ (PostProcessor.live_afterFlush last) hend with }
  | @flushFailed batch last ok post =>
    have hp : (PostProcessor.flushing batch last).Live := post ▸ hl.post
    exact hl.setPost (.draining batch last) hp (by rw [post]; rfl)
  | @updated req rest last post =>
    have hend : (if rest.isEmpty then PostProcessor.afterFlush last
        else .draining rest last).ended = s.post.ended := by
      rw [PostProcessor.ended_drained, post]; rfl
    exact { hl.setPost _ (PostProcessor.live_drained rest last) hend with }
  | @updateFailed req rest last post =>
    refine hl.setPost _ (PostProcessor.live_drained rest last) ?_
    rw [PostProcessor.ended_drained, post]
    rfl
  | postStops =>
    exact { hl with post := trivial, ended := fun _ => ⟨rfl, Or.inl rfl⟩ }
  | notifyRefused => exact hl
  | notified => exact { hl with }
  | openRefused => exact hl
  | opened => exact { hl with }
  | resultSaved => exact { hl with }
  | resultRefused => exact { hl with }
  | restart =>
    refine ⟨by simp [Sys.boot], by simp [Sys.boot], ?_, trivial, ?_⟩
    · intro hst
      cases hst
    · intro hend
      cases hend

/-! ## There is always a step to take -/

/-- Neither channel is closed. -/
def Sys.Open (s : Sys) : Prop := s.sendChan.closed = false ∧ s.postChan.closed = false

/-- The steps of the sender tasks and of the post-processor. -/
def Event.downstream : Event → Prop
  | .callSes _ => True
  | .sesReturn _ _ => True
  | .postSend _ _ => True
  | .postRecv _ => True
  | .postTimeout _ => True
  | .flushBulk _ => True
  | .flushOne _ => True
  | _ => False

/-- Some work can be done by a step in `P`, without a failure while the channels
are open. -/
def Moves (P : Event → Prop) (E : Env) (s : Sys) : Prop :=
  ∃ e t, P e ∧ e.works s = true ∧ s.step E e = some t ∧ (s.Open → e.failureFree)

theorem Moves.of {P : Event → Prop} {e : Event} (he : P e) (hw : e.works s = true)
    (hs : (s.step E e).isSome = true) (hf : s.Open → e.failureFree) : Moves P E s := by
  obtain ⟨t, ht⟩ := Option.isSome_iff_exists.1 hs
  exact ⟨e, t, he, hw, ht, hf⟩

theorem Moves.some {P : Event → Prop} (h : Moves P E s) : Moves (fun _ => True) E s := by
  obtain ⟨e, t, -, hw, hs, hf⟩ := h
  exact ⟨e, t, trivial, hw, hs, hf⟩

/-- A channel of any capacity has room, is closed, or holds something. -/
theorem Channel.room_or (c : Channel) {capacity : ℕ} (hpos : 0 < capacity) :
    c.hasRoom capacity = true ∨ c.closed = true ∨ c.queue ≠ [] := by
  unfold Channel.hasRoom
  cases hq : c.queue with
  | nil => cases hc : c.closed <;> simp [hpos]
  | cons req queue => exact Or.inr (Or.inr (List.cons_ne_nil _ _))

theorem moves_sendChan (hl : Live s) (hq : s.sendChan.queue ≠ []) : Moves (fun _ => True) E s := by
  cases hs : s.sender with
  | stopped => exact absurd (hl.sender hs).1 hq
  | running held =>
    cases held with
    | some req =>
      exact .of (e := .spawnTask) trivial rfl (by simp [Sys.step, Sys.spawnTask, hs]) fun _ => trivial
    | none =>
      obtain ⟨req, queue, hqueue⟩ := List.exists_cons_of_ne_nil hq
      exact .of (e := .recv) trivial rfl (by simp [Sys.step, Sys.recv, hs, hqueue]) fun _ => trivial

theorem moves_batch (hb : s.post.batch ≠ []) : Moves Event.downstream E s := by
  cases hp : s.post with
  | collecting batch =>
    rw [hp] at hb
    exact .of (e := .postTimeout true) trivial (by simpa [Event.works, hp] using hb)
      (by simp [Sys.step, Sys.postTimeout, hp]) fun _ => trivial
  | flushing batch last =>
    refine .of (e := .flushBulk true) trivial rfl ?_ fun _ => rfl
    simp only [Sys.step, Sys.flushBulk, hp]
    split <;> rfl
  | draining rest last =>
    rw [hp] at hb
    obtain ⟨req, rest, rfl⟩ := List.exists_cons_of_ne_nil hb
    exact .of (e := .flushOne true) trivial rfl (by simp [Sys.step, Sys.flushOne, hp]) fun _ => rfl
  | stopped => rw [hp] at hb; exact absurd rfl hb

theorem moves_postChan (hl : Live s) (hq : s.postChan.queue ≠ []) : Moves Event.downstream E s := by
  have hlive := hl.post
  cases hp : s.post with
  | collecting batch =>
    obtain ⟨req, queue, hqueue⟩ := List.exists_cons_of_ne_nil hq
    exact .of (e := .postRecv false) trivial rfl (by simp [Sys.step, Sys.postRecv, hp, hqueue])
      fun _ => trivial
  | flushing batch last => rw [hp] at hlive; exact moves_batch (by rw [hp]; exact hlive)
  | draining rest last => rw [hp] at hlive; exact moves_batch (by rw [hp]; exact hlive)
  | stopped => exact absurd (hl.ended (by rw [hp]; rfl)).1 hq

theorem moves_task (hl : Live s) (hpos : 0 < E.postSendChannelBuffer) {k : ℕ} {task : SendTask}
    (hk : s.tasks[k]? = some task) (hnot : task.isDone = false) : Moves Event.downstream E s := by
  cases task with
  | ready req => exact .of (e := .callSes k) trivial rfl (by simp [Sys.step, Sys.callSes, hk]) fun _ => trivial
  | calling req =>
    exact .of (e := .sesReturn k [.ok none]) trivial rfl
      (by simp [Sys.step, Sys.sesReturn, hk, sendEmail, sendEmail.loop]) fun _ => trivial
  | answered req =>
    rcases s.postChan.room_or hpos with room | hclosed | hq
    · exact .of (e := .postSend k true) trivial rfl (by simp [Sys.step, Sys.postSend, hk, room])
        fun _ => rfl
    · refine .of (e := .postSend k false) trivial rfl (by simp [Sys.step, Sys.postSend, hk, hclosed])
        fun hopen => ?_
      rw [hopen.2] at hclosed
      cases hclosed
    · exact moves_postChan hl hq
  | done => cases hnot

theorem moves_scheduler (hl : Live s) (hpos : 0 < E.sendChannelBuffer) {j : ℕ} {c : Scheduler}
    (hj : s.schedulers[j]? = some c) (hnot : c.isIdle = false) : Moves (fun _ => True) E s := by
  cases c with
  | idle => cases hnot
  | claimed updated =>
    cases hsel : selectScheduled s.db (updated.map (·.id)) with
    | none =>
      exact .of (e := .fetchContents j [] true) trivial rfl
        (by simp [Sys.step, Sys.fetchContents, hj, hsel]) fun _ => rfl
    | some rows =>
      exact .of (e := .fetchContents j rows true) trivial rfl
        (by simp [Sys.step, Sys.fetchContents, hj, hsel, List.isPerm_iff]) fun _ => rfl
  | sending rows =>
    obtain ⟨row, rest, rfl⟩ :=
      List.exists_cons_of_ne_nil (hl.schedulers _ (List.mem_of_getElem? hj))
    rcases s.sendChan.room_or hpos with room | hclosed | hq
    · exact .of (e := .schedulerSend j true) trivial rfl (by simp [Sys.step, Sys.schedulerSend, hj, room])
        fun _ => rfl
    · refine .of (e := .schedulerSend j false) trivial rfl
        (by simp [Sys.step, Sys.schedulerSend, hj, hclosed]) fun hopen => ?_
      rw [hopen.1] at hclosed
      cases hclosed
    · exact moves_sendChan hl hq

theorem moves_handler (hl : Live s) (hpos : 0 < E.sendChannelBuffer) {i : ℕ} {h : Handler}
    (hi : s.handlers[i]? = some h) (hnot : h.settled = false) : Moves (fun _ => True) E s := by
  cases h with
  | received payload =>
    refine .of (e := .saveContents i (fun _ => s.now) TxFaults.none) trivial rfl ?_ fun _ => rfl
    simp only [Sys.step, Sys.saveContents, hi, le_refl, implies_true, not_true, if_false]
    split_ifs
    · rfl
    · split <;> rfl
  | contentsSaved payload saved =>
    refine .of (e := .saveRequests i (fun _ => s.now) TxFaults.none) trivial rfl ?_ fun _ => rfl
    simp only [Sys.step, Sys.saveRequests, hi, le_refl, implies_true, not_true, if_false]
    split
    · rfl
    · split <;> rfl
  | handOff rest loop response =>
    obtain ⟨req, rest, rfl⟩ := List.exists_cons_of_ne_nil (hl.handlers _ (List.mem_of_getElem? hi))
    by_cases hloop : loop.channelClosed = true
    · exact .of (e := .handOff i .ok) trivial rfl (by simp [Sys.step, Sys.handOff, hi, hloop])
        fun _ => by simp [Event.failureFree]
    · rcases s.sendChan.room_or hpos with room | hclosed | hq
      · exact .of (e := .handOff i .ok) trivial rfl (by simp [Sys.step, Sys.handOff, hi, hloop, room])
          fun _ => by simp [Event.failureFree]
      · refine .of (e := .handOff i .closed) trivial rfl
          (by simp [Sys.step, Sys.handOff, hi, hloop, hclosed]) fun hopen => ?_
        rw [hopen.1] at hclosed
        cases hclosed
      · exact moves_sendChan hl hq
  | blocked req rest loop response =>
    rcases s.sendChan.room_or hpos with room | hclosed | hq
    · exact .of (e := .sendBlocked i true) trivial rfl (by simp [Sys.step, Sys.sendBlocked, hi, room])
        fun _ => rfl
    · refine .of (e := .sendBlocked i false) trivial rfl
        (by simp [Sys.step, Sys.sendBlocked, hi, hclosed]) fun hopen => ?_
      rw [hopen.1] at hclosed
      cases hclosed
    · exact moves_sendChan hl hq
  | rollback loop response =>
    exact .of (e := .rollback i true) trivial rfl (by simp [Sys.step, Sys.rollback, hi]) fun _ => rfl
  | responded response => cases hnot
  | dropped => cases hnot

/-- Short of quiet there is work to do. -/
theorem Live.moves (hl : Live s) (hsend : 0 < E.sendChannelBuffer)
    (hpost : 0 < E.postSendChannelBuffer) (hq : ¬ s.Quiet) : Moves (fun _ => True) E s := by
  by_contra hstuck
  refine hq ⟨fun h hm => ?_, fun c hm => ?_, ?_, ?_, fun task hm => ?_, ?_, ?_, ?_⟩
  · obtain ⟨i, hi⟩ := List.mem_iff_getElem?.1 hm
    by_contra hnot
    exact hstuck (moves_handler hl hsend hi (by simpa using hnot))
  · obtain ⟨j, hj⟩ := List.mem_iff_getElem?.1 hm
    by_contra hnot
    exact hstuck (moves_scheduler hl hsend hj (by simpa using hnot))
  · by_contra hne
    exact hstuck (moves_sendChan hl hne)
  · cases hs : s.sender with
    | stopped => rfl
    | running held =>
      cases held with
      | none => rfl
      | some req =>
        exact absurd (.of (e := .spawnTask) trivial rfl (by simp [Sys.step, Sys.spawnTask, hs])
          fun _ => trivial) hstuck
  · obtain ⟨k, hk⟩ := List.mem_iff_getElem?.1 hm
    by_contra hnot
    exact hstuck (moves_task hl hpost hk (by simpa using hnot)).some
  · by_contra hne
    exact hstuck (moves_postChan hl hne).some
  · by_contra hne
    exact hstuck (moves_batch hne).some
  · cases hp : s.pending with
    | nil => rfl
    | cons r pending =>
      refine absurd (.of (e := .saveResult 0 true) trivial rfl ?_ fun _ => rfl) hstuck
      simp only [Sys.step, Sys.saveResult, hp, List.getElem?_cons_zero]
      split <;> rfl

/-! ## Runs -/

theorem Live.init (now : Instant) : Live (Sys.init now) := by
  refine ⟨by simp [Sys.init, Sys.boot], by simp [Sys.init, Sys.boot], ?_, trivial, ?_⟩
  · intro hst
    cases hst
  · intro hend
    cases hend

theorem Run.live {now₀ : Instant} {evs : List Event} (h : Run E now₀ evs s) : Live s :=
  Exec.run_keeps (fun h hl => hl.step h) h (Live.init now₀)

theorem Event.cost_of_works (hw : e.works s = true) : e.cost = 0 := by
  cases e with
  | request => cases hw
  | claimBatch => cases hw
  | notify => cases hw
  | getOpen => cases hw
  | _ => rfl

theorem Sys.weighs (E : Env) :
    Exec.Weighs (Sys.step E) Event.works Live Sys.weight Event.cost where
  keeps h hl := hl.step h
  weighs h _ := (Sys.Step.of_step h).weighs
  free hw := Event.cost_of_works hw

theorem Sys.Step.open (hs : s.Step E e t) (hf : e.failureFree) (ho : s.Open) : t.Open := by
  cases hs with
  | senderStops => exact hf.elim
  | postStops => exact hf.elim
  | restart => exact hf.elim
  | _ => exact ho

open Classical in
/-- The steps that do not fail. -/
noncomputable def Sys.failureFreeStep (E : Env) : Sys → Event → Option Sys :=
  Exec.only (Sys.step E) fun _ e => decide e.failureFree

theorem Sys.failureFreeStep_eq_some :
    Sys.failureFreeStep E s e = some t ↔ e.failureFree ∧ s.step E e = some t :=
  Exec.only_eq_some.trans (and_congr_left' (@decide_eq_true_iff _ (Classical.propDecidable _)))

theorem Sys.weighs_failureFree (E : Env) : Exec.Weighs (Sys.failureFreeStep E) Event.works
    (fun s => Live s ∧ s.Open) Sys.weight Event.cost where
  keeps h hl := by
    obtain ⟨hf, hs⟩ := Sys.failureFreeStep_eq_some.1 h
    exact ⟨hl.1.step hs, (Sys.Step.of_step hs).open hf hl.2⟩
  weighs h _ := (Sys.Step.of_step (Sys.failureFreeStep_eq_some.1 h).2).weighs
  free hw := Event.cost_of_works hw

theorem Run.open {now₀ : Instant} {evs : List Event} (h : Run E now₀ evs s)
    (hev : ∀ e ∈ evs, e.failureFree) : s.Open :=
  Exec.run_invariant (I := Sys.Open) (G := fun _ => True) (P := Event.failureFree)
    (fun _ _ => trivial) (fun h hf _ ho => (Sys.Step.of_step h).open hf ho) h hev trivial
    ⟨rfl, rfl⟩

theorem Sys.Quiet.heldIds_eq (h : s.Quiet) : s.heldIds = [] := by
  have hhandlers : s.handlers.flatMap Handler.ids = [] := by
    refine List.flatMap_eq_nil_iff.2 fun c hc => ?_
    have := h.handlers c hc
    cases c with
    | responded => rfl
    | dropped => rfl
    | _ => cases this
  have hschedulers : s.schedulers.flatMap Scheduler.ids = [] := by
    refine List.flatMap_eq_nil_iff.2 fun c hc => ?_
    have := h.schedulers c hc
    cases c with
    | idle => rfl
    | _ => cases this
  have htasks : s.tasks.flatMap SendTask.unanswered = [] ∧ s.tasks.flatMap SendTask.answers = [] := by
    refine ⟨List.flatMap_eq_nil_iff.2 fun task hm => ?_,
      List.flatMap_eq_nil_iff.2 fun task hm => ?_⟩ <;>
    · have := h.tasks task hm
      cases task with
      | done => rfl
      | _ => cases this
  simp only [Sys.heldIds, Sys.nearIds, Sys.farIds, Sys.farRequests, hhandlers, hschedulers,
    h.sendChan, h.sender, htasks, h.postChan, h.post, List.append_nil, List.filterMap_nil]

section Runs

variable {now₀ : Instant} {evs : List Event}

/-- However a state was reached, failures and stopped loops included: work alone
comes to an end, it ends nowhere but where all is quiet, and it can get there. -/
theorem never_stuck (hrun : Run E now₀ evs s) (hsend : 0 < E.sendChannelBuffer)
    (hpost : 0 < E.postSendChannelBuffer) :
    (∀ evs' t, Exec.run (Exec.only (Sys.step E) Event.works) s evs' = some t →
      evs'.length + t.weight ≤ s.weight ∧
      ((∀ e, Exec.only (Sys.step E) Event.works t e = none) → t.Quiet)) ∧
    ∃ evs' t, Exec.run (Exec.only (Sys.step E) Event.works) s evs' = some t ∧ t.Quiet := by
  have hmoves : ∀ {u : Sys}, Live u → ¬ u.Quiet →
      ∃ e v, e.works u = true ∧ u.step E e = some v := by
    intro u hu hq
    obtain ⟨e, v, -, hw, hs, -⟩ := hu.moves hsend hpost hq
    exact ⟨e, v, hw, hs⟩
  refine ⟨fun evs' t ht => ⟨(Sys.weighs E).length_le ht hrun.live, fun hmax => ?_⟩,
    (Sys.weighs E).finishes hmoves hrun.live⟩
  have hlive : Live t := Exec.run_keeps (fun h hl => hl.step h) (Exec.run_of_only ht) hrun.live
  by_contra hq
  obtain ⟨e, v, hw, hs⟩ := hmoves hlive hq
  have hsome := Exec.only_eq_some.2 ⟨hw, hs⟩
  rw [hmax e] at hsome
  cases hsome

theorem never_stuck_sample : ∃ s evs' t, Run sampleEnv newYear handOffEvents s ∧
    Exec.run (Exec.only (Sys.step sampleEnv) Event.works) s evs' = some t ∧ t.Quiet := by
  obtain ⟨s, hs, -⟩ := Exec.exists_of_any (Sys.step sampleEnv) (Sys.init newYear)
    handOffEvents (fun _ => true)
    (by decide)
  obtain ⟨evs', t, ht, hq⟩ := (never_stuck hs (by decide) (by decide)).2
  exact ⟨s, evs', t, hs, ht, hq⟩

/-- The work done along a run, with what is left of it at the end, is paid for by
what came from outside. -/
theorem work_paid_for (hrun : Run E now₀ evs s) :
    Exec.worked (Sys.step E) Event.works (Sys.init now₀) evs + s.weight ≤
      (evs.map Event.cost).sum := by
  have := (Sys.weighs E).worked_le hrun (Live.init now₀)
  have hinit : (Sys.init now₀).weight = 0 := rfl
  omega

theorem work_paid_for_sample : ∃ s, Run sampleEnv newYear (handOffEvents ++ answerEvents) s ∧
    Exec.worked (Sys.step sampleEnv) Event.works (Sys.init newYear)
      (handOffEvents ++ answerEvents) + s.weight ≤ 32 := by
  obtain ⟨s, hs, -⟩ := Exec.exists_of_any (Sys.step sampleEnv) (Sys.init newYear)
    (handOffEvents ++ answerEvents)
    (fun _ => true) (by decide)
  exact ⟨s, hs, work_paid_for hs⟩

/-- While nothing fails, every delivery that was begun can be brought to its end
without a failure, and where nothing of it is left to do it has ended in its row. -/
theorem deliveries_end (hrun : Run E now₀ evs s) (hev : ∀ e ∈ evs, e.failureFree)
    (hfk : E.foreignKeys = true) (hsend : 0 < E.sendChannelBuffer)
    (hpost : 0 < E.postSendChannelBuffer) :
    (∃ evs' t, Exec.run (Exec.only (Sys.step E) Event.works) s evs' = some t ∧
      (∀ e ∈ evs', e.failureFree) ∧ t.Quiet) ∧
    ((∀ e t, e.failureFree → Exec.only (Sys.step E) Event.works s e ≠ some t) → s.IdsFit →
      ∀ id row, s.db.requests.get? id = some row →
        row.status = EmailMessageStatus.created.asI32 ∨
        row.status = EmailMessageStatus.stopped.asI32 ∨
        (row.status = EmailMessageStatus.sent.asI32 ∧ ∃ req m, (req, .ok m) ∈ s.hist.returned ∧
          req.rowid = some id ∧ row.messageId = some m) ∨
        (row.status = EmailMessageStatus.failed.asI32 ∧ ∃ req e, (req, .error e) ∈ s.hist.returned ∧
          req.rowid = some id ∧ row.error = some e.toText)) := by
  have hmoves : ∀ {u : Sys}, Live u ∧ u.Open → ¬ u.Quiet →
      ∃ e v, e.works u = true ∧ Sys.failureFreeStep E u e = some v := by
    intro u hu hq
    obtain ⟨e, v, -, hw, hs, hf⟩ := hu.1.moves hsend hpost hq
    exact ⟨e, v, hw, Sys.failureFreeStep_eq_some.2 ⟨hf hu.2, hs⟩⟩
  have hI : Live s ∧ s.Open := ⟨hrun.live, hrun.open hev⟩
  refine ⟨?_, fun hmax hfit id row hrow => ?_⟩
  · obtain ⟨evs', t, ht, hq⟩ := (Sys.weighs_failureFree E).finishes hmoves hI
    refine ⟨evs', t, Exec.run_mono (fun h => ?_) ht, Exec.run_forall (fun h => ?_) ht, hq⟩
    · obtain ⟨hw, hs⟩ := Exec.only_eq_some.1 h
      exact Exec.only_eq_some.2 ⟨hw, (Sys.failureFreeStep_eq_some.1 hs).2⟩
    · exact (Sys.failureFreeStep_eq_some.1 (Exec.only_eq_some.1 h).2).1
  · have hq : s.Quiet := by
      by_contra hq
      obtain ⟨e, v, hw, hs⟩ := hmoves hI hq
      obtain ⟨hf, hs⟩ := Sys.failureFreeStep_eq_some.1 hs
      exact hmax e v hf (Exec.only_eq_some.2 ⟨hw, hs⟩)
    cases (hrun.inv hfit).rows.recorded id row hrow with
    | blank status =>
      rcases status with hst | hst | hst
      · exact Or.inl hst
      · have hp : s.book.phase id = some .taken :=
          Sys.book_phase_eq_some.2 ⟨row, hrow, RequestRow.phase_eq_taken.2 hst⟩
        have hheld := mem_heldIds.2 (hrun.conserved hfit hfk hev id hp)
        rw [hq.heldIds_eq] at hheld
        cases hheld
      · exact Or.inr (Or.inl hst)
    | sent mem rowid status messageId _ =>
      exact Or.inr (Or.inr (Or.inl ⟨status, _, _, mem, rowid, messageId⟩))
    | failed mem rowid status _ error =>
      exact Or.inr (Or.inr (Or.inr ⟨status, _, _, mem, rowid, error⟩))

theorem deliveries_end_sample : ∃ s evs' t, Run sampleEnv newYear handOffEvents s ∧
    Exec.run (Exec.only (Sys.step sampleEnv) Event.works) s evs' = some t ∧
    (∀ e ∈ evs', e.failureFree) ∧ t.Quiet := by
  obtain ⟨s, hs, -⟩ := Exec.exists_of_any (Sys.step sampleEnv) (Sys.init newYear)
    handOffEvents (fun _ => true)
    (by decide)
  have hev : ∀ e ∈ handOffEvents, e.failureFree := by
    simp [handOffEvents, saving, Event.failureFree]
  obtain ⟨evs', t, ht, hf, hq⟩ := (deliveries_end hs hev rfl (by decide) (by decide)).1
  exact ⟨s, evs', t, hs, ht, hf, hq⟩

end Runs

end Ses
