import SesSender.Proofs.LifeCycle

/-! How many copies of a mail SES takes. The channel hands a request over once
and its task calls `send_email` once, but `send_email` calls SES again after an
error that may hide a success. -/

namespace Ses

open Calendar

variable {E : Env} {s t : Sys} {e : Event} {now₀ : Instant} {evs : List Event}

/-! ## The retry loop -/

/-- The answer to the call never came. -/
def SesCall.lost (call : SesCall) : Bool :=
  match call.outcome with
  | .error (.timeoutError _) => true
  | .error (.dispatchFailure _) => true
  | _ => false

/-- The loop calls again after this call. -/
def SesCall.Retried (call : SesCall) : Prop := ∃ e, call.outcome = .error e ∧ e.isRetryable = true

/-- Throttling is refused, so a retried mail was taken only when the answer is lost. -/
theorem SesCall.Retried.lost_of_accepted {call : SesCall} (h : call.Retried) (hp : call.Possible)
    (hacc : call.accepted = true) : call.lost = true := by
  obtain ⟨e, he, hr⟩ := h
  unfold SesCall.Possible at hp
  unfold SesCall.lost
  rw [he] at hp ⊢
  cases e with
  | serviceError status d => simp [hp] at hacc
  | timeoutError d => rfl
  | dispatchFailure d => rfl
  | other d => cases hr

theorem prefix_made (attempts : ℕ) (calls : List SesCall) :
    sendEmail.made attempts calls <+: calls := by
  induction calls generalizing attempts with
  | nil => exact List.prefix_refl _
  | cons call rest ih =>
    unfold sendEmail.made
    split
    · exact List.prefix_append [call] rest
    · split
      · exact (List.prefix_cons_inj call).2 (ih (attempts + 1))
      · exact List.prefix_append [call] rest

/-- What the loop returns depends on the calls it makes only. -/
theorem loop_made (attempts : ℕ) (calls : List SesCall) :
    sendEmail.loop attempts ((sendEmail.made attempts calls).map (·.outcome)) =
      sendEmail.loop attempts (calls.map (·.outcome)) := by
  induction calls generalizing attempts with
  | nil => rfl
  | cons call rest ih =>
    cases ho : call.outcome with
    | ok m => simp only [sendEmail.made, ho, List.map_cons, sendEmail.loop]
    | error e =>
      by_cases hr : e.isRetryable = true ∧ attempts < MAX_RETRIES
      · simp only [sendEmail.made, ho, if_pos hr, List.map_cons, sendEmail.loop, ih]
      · simp only [sendEmail.made, ho, if_neg hr, List.map_cons, sendEmail.loop]

theorem length_made (attempts : ℕ) (calls : List SesCall) :
    (sendEmail.made attempts calls).length ≤ MAX_RETRIES + 1 - attempts ∨
      MAX_RETRIES < attempts := by
  induction calls generalizing attempts with
  | nil => simp only [sendEmail.made, List.length_nil]; omega
  | cons call rest ih =>
    unfold sendEmail.made
    split
    · simp only [List.length_singleton]; omega
    · split
      · rename_i hr
        rcases ih (attempts + 1) with h | h
        · simp only [List.length_cons]; omega
        · omega
      · simp only [List.length_singleton]; omega

theorem made_retried (attempts : ℕ) (calls : List SesCall) :
    ∀ call ∈ (sendEmail.made attempts calls).dropLast, call.Retried := by
  induction calls generalizing attempts with
  | nil => simp [sendEmail.made]
  | cons call rest ih =>
    intro call' hcall
    cases ho : call.outcome with
    | ok m => simp [sendEmail.made, ho] at hcall
    | error e =>
      by_cases hr : e.isRetryable = true ∧ attempts < MAX_RETRIES
      · simp only [sendEmail.made, ho, if_pos hr] at hcall
        cases hrest : sendEmail.made (attempts + 1) rest with
        | nil => simp [hrest] at hcall
        | cons call₁ rest₁ =>
          rw [hrest, List.dropLast_cons_cons, List.mem_cons] at hcall
          rcases hcall with rfl | hcall
          · exact ⟨e, ho, hr.1⟩
          · exact ih (attempts + 1) call' (hrest ▸ hcall)
      · simp [sendEmail.made, ho, if_neg hr] at hcall

/-- Every copy but one comes from a call that was taken and tried again. -/
theorem copies_made_le {calls : List SesCall} (hp : ∀ call ∈ calls, call.Possible) :
    copies (sendEmail.made 0 calls) ≤
      1 + (sendEmail.made 0 calls).dropLast.countP fun call => call.accepted && call.lost := by
  generalize hm : sendEmail.made 0 calls = made
  have hret := made_retried 0 calls
  have hsub := (prefix_made 0 calls).subset
  rw [hm] at hret hsub
  rcases List.eq_nil_or_concat made with rfl | ⟨init, last, rfl⟩
  · simp [copies]
  · rw [List.concat_eq_append] at hret hsub ⊢
    rw [List.dropLast_concat] at hret ⊢
    have hinit : init.countP (·.accepted) = init.countP fun call => call.accepted && call.lost :=
      List.countP_congr fun call hcall => by
        have hposs := hp call (hsub (List.mem_append_left _ hcall))
        simp only [Bool.and_eq_true]
        exact ⟨fun hacc => ⟨hacc, (hret call hcall).lost_of_accepted hposs hacc⟩, fun h => h.1⟩
    have hlast : [last].countP (·.accepted) ≤ 1 := List.countP_le_length
    rw [copies, List.countP_append, hinit]
    omega

/-! ## One call of `send_email` for each request -/

/-- Spawned, and SES not yet called. -/
def SendTask.waiting : SendTask → List EmailRequest
  | .ready req => [req]
  | _ => []

/-- Accepted by the channel, and `send_email` not yet called. -/
def Sys.uncalled (s : Sys) : List EmailRequest :=
  s.sendChan.queue ++ s.sender.held ++ s.tasks.flatMap (·.waiting)

/-- What SES was called for and what it will be called for is what was accepted. -/
def CalledOnce (s : Sys) : Prop :=
  (s.hist.called.map Prod.fst ++ s.uncalled).Subperm s.hist.accepted

theorem calledOnce_iff :
    CalledOnce s ↔ (s.hist.called.map Prod.fst : Multiset EmailRequest) + s.sendChan.queue +
      s.sender.held + (s.tasks.flatMap (·.waiting) : List EmailRequest) ≤ s.hist.accepted := by
  unfold CalledOnce Sys.uncalled
  rw [← Multiset.coe_le]
  simp only [← Multiset.coe_add, ← add_assoc]

theorem CalledOnce.accept (h : CalledOnce s) (req : EmailRequest) : CalledOnce (s.accept req) := by
  rw [calledOnce_iff] at h ⊢
  simp only [Sys.accept, Channel.push, ← Multiset.coe_add]
  refine le_trans (le_of_eq ?_) (add_le_add_left h ([req] : Multiset EmailRequest))
  abel

theorem waiting_setTask {k : ℕ} {task₀ : SendTask} (hk : s.tasks[k]? = some task₀) :
    ∃ N : Multiset EmailRequest,
      (s.tasks.flatMap (·.waiting) : Multiset EmailRequest) = task₀.waiting + N ∧
      ∀ task, ((s.tasks.set k task).flatMap (·.waiting) : Multiset EmailRequest) =
        task.waiting + N := by
  obtain ⟨rest, hrest, hset⟩ := Lists.flatMap_set (·.waiting) hk
  exact ⟨rest, Multiset.coe_eq_coe.2 hrest, fun task => Multiset.coe_eq_coe.2 (hset task)⟩

theorem Sys.Step.calledOnce (hs : s.Step E e t) (h : CalledOnce s) : CalledOnce t := by
  cases hs with
  | handOffAccepted | blockedAccepted | schedulerSent => exact h.accept _
  | recv sender queued =>
    rw [calledOnce_iff] at h ⊢
    rw [sender, queued] at h
    refine le_trans (le_of_eq ?_) h
    simp only [SenderLoop.held, Option.toList_some, Option.toList_none, ← Multiset.cons_coe,
      Multiset.coe_nil, ← Multiset.singleton_add]
    abel
  | spawnTask sender =>
    rw [calledOnce_iff] at h ⊢
    rw [sender] at h
    refine le_trans (le_of_eq ?_) h
    simp only [SenderLoop.held, Option.toList_some, Option.toList_none, List.flatMap_append,
      List.flatMap_singleton, SendTask.waiting, ← Multiset.coe_add, Multiset.coe_nil]
    abel
  | @callSes k req task =>
    rw [calledOnce_iff] at h ⊢
    obtain ⟨N, hN, hset⟩ := waiting_setTask task
    rw [hN] at h
    refine le_trans (le_of_eq ?_) h
    simp only [Sys.setTask]
    rw [hset, List.map_append, ← Multiset.coe_add]
    simp only [SendTask.waiting, List.map_cons, List.map_nil, Multiset.coe_nil]
    abel
  | sesReturn task | postSent task | postSendClosed task =>
    rw [calledOnce_iff] at h ⊢
    obtain ⟨N, hN, hset⟩ := waiting_setTask task
    rw [hN] at h
    simp only [Sys.setTask]
    rw [hset]
    exact h
  -- what the channel and the tasks held is gone
  | senderStops =>
    rw [calledOnce_iff] at h ⊢
    exact le_trans (add_le_add (add_le_add (add_le_add le_rfl (Multiset.zero_le _))
      (Multiset.zero_le _)) le_rfl) h
  | restart =>
    rw [calledOnce_iff] at h ⊢
    exact le_trans (add_le_add (add_le_add (add_le_add le_rfl (Multiset.zero_le _))
      (Multiset.zero_le _)) (Multiset.zero_le _)) h
  | _ => exact h

theorem Run.calledOnce (hrun : Run E now₀ evs s) : CalledOnce s := by
  refine Exec.run_keeps (fun h hs => (Sys.Step.of_step h).calledOnce hs) hrun ?_
  exact calledOnce_iff.2 (by simp [Sys.init, Sys.boot, Channel.open, SenderLoop.held])

/-- Each request taken from the channel is called for once at most. -/
theorem Run.called_accepted (hrun : Run E now₀ evs s) :
    (s.hist.called.map Prod.fst).Subperm s.hist.accepted :=
  (List.sublist_append_left _ _).subperm.trans hrun.calledOnce

/-- No row is called for twice, over every restart. -/
theorem Run.called_once (hrun : Run E now₀ evs s) (hfit : s.IdsFit) (id : Int) :
    (s.hist.called.filter fun call => call.1.rowid = some id).length ≤ 1 := by
  have honce := accepted_once (Multiset.coe_nodup.1 (hrun.inv hfit).book.once) id
  have hle := hrun.called_accepted.countP_le fun req => decide (req.rowid = some id)
  rw [← List.countP_eq_length_filter] at honce ⊢
  rw [List.countP_map] at hle
  exact hle.trans honce

/-! ## Copies -/

/-- `send_email` is called once at most for each request taken from the channel.
Of the calls of `.send()` it makes SES takes one mail, and one more for each time it
took a mail, its answer was lost, and it was called again. The SDK's own retries
inside one call are not counted. -/
theorem copies_bounded (hrun : Run E now₀ evs s) :
    (s.hist.called.map Prod.fst).Subperm s.hist.accepted ∧
    ∀ calls : List SesCall, (∀ call ∈ calls, call.Possible) →
      let made := sendEmail.made 0 calls
      made <+: calls ∧ sendEmail (made.map (·.outcome)) = sendEmail (calls.map (·.outcome)) ∧
      made.length ≤ MAX_RETRIES + 1 ∧ (∀ call ∈ made.dropLast, call.Retried) ∧
      copies made ≤ 1 + (made.dropLast.countP fun call => call.accepted && call.lost) := by
  refine ⟨hrun.called_accepted, fun calls hp => ⟨prefix_made 0 calls, loop_made 0 calls, ?_,
    made_retried 0 calls, copies_made_le hp⟩⟩
  rcases length_made 0 calls with h | h
  · exact h
  · exact absurd h (Nat.not_lt_zero _)

theorem copies_bounded_sample :
    ∃ s, Run sampleEnv newYear (handOffEvents ++ answerEvents) s ∧ s.hist.called.length = 1 ∧
      (s.hist.called.map Prod.fst).Subperm s.hist.accepted ∧
      copies (sendEmail.made 0 [⟨.error (.serviceError 429 "throttled"), false⟩,
        ⟨.ok (some "m-1"), true⟩]) ≤ 1 := by
  obtain ⟨s, hs, hp⟩ := Exec.exists_of_any (Sys.step sampleEnv) (Sys.init newYear)
    (handOffEvents ++ answerEvents)
    (fun s => decide (s.hist.called.length = 1)) (by decide)
  obtain ⟨honce, hcalls⟩ := copies_bounded hs
  refine ⟨s, hs, of_decide_eq_true hp, honce, ?_⟩
  exact (hcalls [⟨.error (.serviceError 429 "throttled"), false⟩, ⟨.ok (some "m-1"), true⟩]
    (by simp [SesCall.Possible])).2.2.2.2

/-- Two copies: SES takes the mail, its answer is lost, and it takes it again. -/
theorem copies_of_timeout :
    ¬ ∀ calls : List SesCall, (∀ call ∈ calls, call.Possible) →
      copies (sendEmail.made 0 calls) ≤ 1 := by
  intro h
  have := h [⟨.error (.timeoutError "read timeout"), true⟩, ⟨.ok (some "m-1"), true⟩]
    (by simp [SesCall.Possible])
  exact absurd this (by decide)

end Ses
