import SesSender.Proofs.Refinement

/-! Hand-off, life cycle and conservation over whole runs. -/

namespace Ses

open Calendar

variable {E : Env} {s t : Sys} {e : Event} {now₀ : Instant} {evs : List Event}

/-- The status changes of a row. -/
inductive LifeCycle : Int → Int → Prop where
  | claim : LifeCycle EmailMessageStatus.created.asI32 EmailMessageStatus.processed.asI32
  | stop : LifeCycle EmailMessageStatus.created.asI32 EmailMessageStatus.stopped.asI32
  | rollback : LifeCycle EmailMessageStatus.processed.asI32 EmailMessageStatus.created.asI32
  | send : LifeCycle EmailMessageStatus.processed.asI32 EmailMessageStatus.sent.asI32
  | fail : LifeCycle EmailMessageStatus.processed.asI32 EmailMessageStatus.failed.asI32

theorem RequestRow.status_of_phase {row row' : RequestRow} (h : row'.phase = row.phase) :
    row'.status = row.status := by
  cases hp : row.phase with
  | waiting =>
    rw [RequestRow.phase_eq_waiting.1 hp, RequestRow.phase_eq_waiting.1 (h.trans hp)]
  | taken => rw [RequestRow.phase_eq_taken.1 hp, RequestRow.phase_eq_taken.1 (h.trans hp)]
  | stopped => rw [RequestRow.phase_eq_stopped.1 hp, RequestRow.phase_eq_stopped.1 (h.trans hp)]
  | finished o =>
    obtain ⟨-, -, -, ho⟩ := RequestRow.phase_eq_finished.1 hp
    obtain ⟨-, -, -, ho'⟩ := RequestRow.phase_eq_finished.1 (h.trans hp)
    exact congrArg Outcome.status (ho'.symm.trans ho)

theorem RowsOk.finished_status (h : RowsOk E s) {id : Int} {row : RequestRow} {o : Outcome}
    (hrow : s.db.requests.get? id = some row) (hp : row.phase = .finished o) :
    row.status = EmailMessageStatus.sent.asI32 ∨ row.status = EmailMessageStatus.failed.asI32 := by
  obtain ⟨h0, h1, h4, -⟩ := RequestRow.phase_eq_finished.1 hp
  cases h.recorded id row hrow with
  | blank status =>
    rcases status with hs | hs | hs
    · exact absurd hs h0
    · exact absurd hs h1
    · exact absurd hs h4
  | sent _ _ status => exact Or.inl status
  | failed _ _ status => exact Or.inr status

theorem mem_heldIds {id : Int} :
    id ∈ s.heldIds ↔ id ∈ (s.nearIds : Multiset Int) + (s.farIds : Multiset Int) := by
  simp [Sys.heldIds]

/-- SES is called for held requests only. -/
theorem Sys.Step.called_held (hs : s.Step E e t) (hc : Carried E s) :
    ∀ call ∈ t.hist.called, call ∈ s.hist.called ∨
      ∃ id, call.1.rowid = some id ∧ id ∈ s.heldIds := by
  intro call hcall
  cases hs with
  | @callSes k req task =>
    rcases List.mem_append.1 hcall with hcall | hcall
    · exact Or.inl hcall
    · obtain rfl := List.mem_singleton.1 hcall
      have hmem : req ∈ s.tasks.flatMap (·.unanswered) :=
        mem_tasks task (by simp [SendTask.unanswered])
      obtain ⟨id, hid, -⟩ := (hc.tasks req hmem).ids_eq
      refine Or.inr ⟨id, hid, mem_heldIds.2 ?_⟩
      rw [Sys.coe_farIds]
      simp only [Multiset.mem_add]
      exact Or.inr (Or.inl (Or.inl (Or.inl (Or.inr (mem_idsOf.2 ⟨req, hmem, hid⟩)))))
  | _ => exact Or.inl hcall

/-- What one step can do to the status of one row. -/
theorem Sys.Inv.status_change (h : s.Inv E) (hs : s.Step E e t) (hfit : t.IdsFit) {id : Int}
    {row : RequestRow} (hrow : s.db.requests.get? id = some row) :
    ∃ row', t.db.requests.get? id = some row' ∧
      (row'.status = row.status ∨ LifeCycle row.status row'.status) := by
  obtain ⟨m, hm, -⟩ := hs.refines h.carried h.rows h.book hfit
  have hchange := hm.change h.book id
  have hp : s.book.phase id = some row.phase := Sys.book_phase_eq_some.2 ⟨row, hrow, rfl⟩
  have ht := h.step hs hfit
  generalize hq : t.book.phase id = q at hchange
  rw [hp] at hchange
  generalize hr : some row.phase = p at hchange
  cases hchange with
  | same =>
    obtain ⟨row', hrow', hph⟩ := Sys.book_phase_eq_some.1 (hq.trans hr.symm)
    exact ⟨row', hrow', Or.inl (RequestRow.status_of_phase hph)⟩
  | enter => cases hr
  | enterTaken => cases hr
  | take =>
    obtain ⟨row', hrow', hph⟩ := Sys.book_phase_eq_some.1 hq
    refine ⟨row', hrow', Or.inr ?_⟩
    rw [RequestRow.phase_eq_waiting.1 (Option.some.inj hr), RequestRow.phase_eq_taken.1 hph]
    exact .claim
  | stop =>
    obtain ⟨row', hrow', hph⟩ := Sys.book_phase_eq_some.1 hq
    refine ⟨row', hrow', Or.inr ?_⟩
    rw [RequestRow.phase_eq_waiting.1 (Option.some.inj hr), RequestRow.phase_eq_stopped.1 hph]
    exact .stop
  | release =>
    obtain ⟨row', hrow', hph⟩ := Sys.book_phase_eq_some.1 hq
    refine ⟨row', hrow', Or.inr ?_⟩
    rw [RequestRow.phase_eq_taken.1 (Option.some.inj hr), RequestRow.phase_eq_waiting.1 hph]
    exact .rollback
  | finish a =>
    obtain ⟨row', hrow', hph⟩ := Sys.book_phase_eq_some.1 hq
    refine ⟨row', hrow', Or.inr ?_⟩
    rw [RequestRow.phase_eq_taken.1 (Option.some.inj hr)]
    rcases ht.rows.finished_status hrow' hph with hst | hst <;> rw [hst]
    · exact .send
    · exact .fail

/-- A row whose delivery is over keeps its status, whatever happens later. -/
theorem Sys.Inv.final_status (h : s.Inv E) (hrun : Exec.run (Sys.step E) s evs = some t)
    (hfit : t.IdsFit) {id : Int} {row : RequestRow} (hrow : s.db.requests.get? id = some row)
    (hst : row.status ≠ EmailMessageStatus.created.asI32 ∧
      row.status ≠ EmailMessageStatus.processed.asI32) :
    ∃ row', t.db.requests.get? id = some row' ∧ row'.status = row.status := by
  have hp : s.book.phase id = some row.phase := Sys.book_phase_eq_some.2 ⟨row, hrow, rfl⟩
  have hterm : s.book.phase id = some .stopped ∨ ∃ a, s.book.phase id = some (.finished a) := by
    rw [hp]
    by_cases h4 : row.status = EmailMessageStatus.stopped.asI32
    · exact Or.inl (congrArg some (RequestRow.phase_eq_stopped.2 h4))
    · exact Or.inr ⟨_, congrArg some
        (RequestRow.phase_eq_finished.2 ⟨hst.1, hst.2, h4, rfl⟩)⟩
  have hsame := terminal_of_run hrun hfit h hterm
  obtain ⟨row', hrow', hph⟩ := Sys.book_phase_eq_some.1 (hsame.trans hp)
  exact ⟨row', hrow', RequestRow.status_of_phase hph⟩

/-- An accepted request is never one of a stopped row. -/
theorem Sys.Inv.stopped_not_accepted (h : s.Inv E) {id : Int} {row : RequestRow}
    (hrow : s.db.requests.get? id = some row)
    (hst : row.status = EmailMessageStatus.stopped.asI32) :
    ∀ req ∈ s.hist.accepted, req.rowid ≠ some id := by
  intro req hreq hid
  have hp : s.book.phase id = some .stopped :=
    Sys.book_phase_eq_some.2 ⟨row, hrow, RequestRow.phase_eq_stopped.2 hst⟩
  exact h.book.not_accepted (Or.inr (Or.inr hp)) (List.mem_filterMap.2 ⟨req, hreq, hid⟩)

theorem accepted_once {accepted : List EmailRequest}
    (h : (accepted.filterMap (·.rowid)).Nodup) (id : Int) :
    (accepted.filter fun req => req.rowid = some id).length ≤ 1 := by
  have hcount := List.nodup_iff_count_le_one.1 h id
  rw [← List.countP_eq_length_filter]
  calc accepted.countP (fun req => req.rowid = some id)
      = (accepted.filterMap (·.rowid)).count id := by
        rw [List.count, List.countP_filterMap]
        exact List.countP_congr fun req _ => by cases req.rowid <;> simp
    _ ≤ 1 := hcount

/-- Every call to SES is made for a row. -/
theorem Run.called_rows (hrun : Run E now₀ evs s) (hfit : s.IdsFit) :
    ∀ call ∈ s.hist.called, ∃ id row, call.1.rowid = some id ∧
      s.db.requests.get? id = some row := by
  let I : Sys → Prop := fun s => s.Inv E ∧ ∀ call ∈ s.hist.called, ∃ id row,
    call.1.rowid = some id ∧ s.db.requests.get? id = some row
  have hall : I s := by
    refine Exec.run_invariant (G := Sys.IdsFit) (I := I) (P := fun _ => True)
      (fun h ht => (Sys.Step.of_step h).idsFit ht) (fun {s e t} h _ ht hs => ?_) hrun
      (fun _ _ => trivial) hfit ⟨Sys.Inv.init E now₀, by simp [Sys.init, Sys.boot]⟩
    have hstep := Sys.Step.of_step h
    have hkeep := hstep.grows.rows
    refine ⟨hs.1.step hstep ht, fun call hcall => ?_⟩
    rcases hstep.called_held hs.1.carried call hcall with hold | ⟨id, hid, hheld⟩
    · obtain ⟨id, row, hid, hrow⟩ := hs.2 call hold
      obtain ⟨row', hrow', -⟩ := hkeep id row hrow
      exact ⟨id, row', hid, hrow'⟩
    · obtain ⟨row, hrow, -⟩ := hs.1.rows.held_row hs.1.book (mem_heldIds.1 hheld)
      obtain ⟨row', hrow', -⟩ := hkeep id row hrow
      exact ⟨id, row', hid, hrow'⟩
  exact hall.2

/-! ## A sample run -/

def newYear : Instant := ⟨(Date.newYear 2030).midnight, by decide⟩

/-- `notificationType` Delivery for the message id `m-1`. -/
def deliveryText : String :=
  "\x7b\"notificationType\":\"Delivery\",\"mail\":\x7b\"messageId\":\"m-1\"\x7d\x7d"

def delivery : SesNotification :=
  ⟨"Delivery", .object [("mail", .object [("messageId", .string "m-1")])]⟩

def sampleEnv : Env where
  serverUrl := "http://localhost:8080"
  sendChannelBuffer := 10
  postSendChannelBuffer := 10
  foreignKeys := true
  parseFromStr s :=
    if s = "2030-01-01 09:00:00" then some { newYear with hour := 9, hour_lt := by decide }
    else none
  sesNotification s := if s = deliveryText then some delivery else none
  openQuery q :=
    if "request_id=".toList.isPrefixOf q.toList then
      some ⟨some (String.ofList (q.toList.drop 11))⟩
    else some ⟨none⟩

/-- One mail to one address, at once or at the given time. -/
def sampleMail (topicId : String) (scheduledAt : Option String) : CreateMessageRequest :=
  ⟨[⟨some topicId, ["reader@example.com"], "Hello", "<p>Hi</p>"⟩], scheduledAt⟩

def saving (i : ℕ) : List Event :=
  [.saveContents i (fun _ => newYear) .none, .saveRequests i (fun _ => newYear) .none]

/-- The first row is handed over, the second one is scheduled and stopped. -/
def handOffEvents : List Event :=
  [.request (sampleMail "a" none)] ++ saving 0 ++ [.handOff 0 .ok,
    .request (sampleMail "b" (some "2030-01-01 09:00:00"))] ++ saving 1 ++ [.stopTopic "b" true]

def answerEvents : List Event :=
  [.recv, .spawnTask, .callSes 0, .sesReturn 0 [.ok (some "m-1")], .postSend 0 true, .postRecv false]

def flushEvents : List Event := [.postTimeout true, .flushBulk true]

/-! ## The runs -/

/-- Every request the channel accepts is one of a row and is accepted once; a
stopped row is never handed over, before or after, and stays stopped. -/
theorem handed_over_at_most_once (hrun : Run E now₀ evs s) (hfit : s.IdsFit) :
    (∀ req ∈ s.hist.accepted, ∃ id row, req.rowid = some id ∧
      s.db.requests.get? id = some row) ∧
    (∀ id, (s.hist.accepted.filter fun req => req.rowid = some id).length ≤ 1) ∧
    ∀ id row, s.db.requests.get? id = some row →
      row.status = EmailMessageStatus.stopped.asI32 →
      ∀ evs' u, Exec.run (Sys.step E) s evs' = some u → u.IdsFit →
        (∃ row', u.db.requests.get? id = some row' ∧
          row'.status = EmailMessageStatus.stopped.asI32) ∧
        ∀ req ∈ u.hist.accepted, req.rowid ≠ some id := by
  have h := hrun.inv hfit
  refine ⟨fun req hreq => ?_, fun id => ?_, fun id row hrow hst evs' u hrun' hfit' => ?_⟩
  · obtain ⟨id, hid, -⟩ := (h.carried.accepted req hreq).ids_eq
    have hp := h.book.passed id (List.mem_filterMap.2 ⟨req, hreq, hid⟩)
    rcases hp with hp | ⟨a, hp⟩
    · obtain ⟨row, hrow, -⟩ := Sys.book_phase_eq_some.1 hp
      exact ⟨id, row, hid, hrow⟩
    · obtain ⟨row, hrow, -⟩ := Sys.book_phase_eq_some.1 hp
      exact ⟨id, row, hid, hrow⟩
  · exact accepted_once (Multiset.coe_nodup.1 h.book.once) id
  · have hne : row.status ≠ EmailMessageStatus.created.asI32 ∧
        row.status ≠ EmailMessageStatus.processed.asI32 := by
      rw [hst]; decide
    obtain ⟨row', hrow', hst'⟩ := h.final_status hrun' hfit' hrow hne
    rw [hst] at hst'
    exact ⟨⟨row', hrow', hst'⟩, (h.run hrun' hfit').stopped_not_accepted hrow' hst'⟩

theorem handed_over_at_most_once_sample :
    ∃ s u row', Run sampleEnv newYear handOffEvents s ∧
      Exec.run (Sys.step sampleEnv) s (answerEvents ++ flushEvents) = some u ∧
      s.hist.accepted.length = 1 ∧ u.db.requests.get? 2 = some row' ∧
      row'.status = EmailMessageStatus.stopped.asI32 ∧
      ∀ req ∈ u.hist.accepted, req.rowid ≠ some 2 := by
  obtain ⟨s, hs, hp⟩ := Exec.exists_of_any (Sys.step sampleEnv) (Sys.init newYear) handOffEvents
    (fun s => decide (s.IdsFit ∧ s.hist.accepted.length = 1) &&
      (s.db.requests.get? 2).any (fun row => row.status = EmailMessageStatus.stopped.asI32) &&
      (Exec.run (Sys.step sampleEnv) s (answerEvents ++ flushEvents)).any
        fun u : Sys => decide u.IdsFit) (by decide)
  simp only [Bool.and_eq_true, decide_eq_true_eq, Option.any_eq_true] at hp
  obtain ⟨⟨⟨hfit, hlen⟩, row, hrow, hst⟩, u, hu, hfit'⟩ := hp
  obtain ⟨⟨row', hrow', hst'⟩, hno⟩ :=
    (handed_over_at_most_once hs hfit).2.2 2 row hrow hst _ u hu hfit'
  exact ⟨s, u, row', hs, hu, hlen, hrow', hst', hno⟩

/-- Every id in memory is held in one place only, over a processed blank row;
rows change status along the life cycle and never leave its ends. -/
theorem held_once_along_life_cycle (hrun : Run E now₀ evs s) (hfit : s.IdsFit) :
    s.heldIds.Nodup ∧
    (∀ id ∈ s.heldIds, ∃ row, s.db.requests.get? id = some row ∧
      row.status = EmailMessageStatus.processed.asI32 ∧ row.messageId = none ∧ row.error = none) ∧
    (∀ e t, s.step E e = some t → t.IdsFit → ∀ id row, s.db.requests.get? id = some row →
      ∃ row', t.db.requests.get? id = some row' ∧
        (row'.status = row.status ∨ LifeCycle row.status row'.status)) ∧
    ∀ evs' u, Exec.run (Sys.step E) s evs' = some u → u.IdsFit →
      ∀ id row, s.db.requests.get? id = some row →
        row.status = EmailMessageStatus.sent.asI32 ∨ row.status = EmailMessageStatus.failed.asI32 ∨
          row.status = EmailMessageStatus.stopped.asI32 →
        ∃ row', u.db.requests.get? id = some row' ∧ row'.status = row.status := by
  have h := hrun.inv hfit
  refine ⟨?_, fun id hid => ?_, fun e t hs hfit' id row hrow => ?_,
    fun evs' u hrun' hfit' id row hrow hst => ?_⟩
  · exact Multiset.coe_nodup.1 h.book.nodup
  · exact h.rows.held_row h.book (mem_heldIds.1 hid)
  · exact h.status_change (Sys.Step.of_step hs) hfit' hrow
  · refine h.final_status hrun' hfit' hrow ?_
    rcases hst with hst | hst | hst <;> rw [hst] <;> decide

theorem held_once_along_life_cycle_sample :
    ∃ s, Run sampleEnv newYear (handOffEvents ++ answerEvents) s ∧ s.heldIds = [1] ∧
      ∃ row, s.db.requests.get? 1 = some row ∧
        row.status = EmailMessageStatus.processed.asI32 ∧ row.messageId = none := by
  obtain ⟨s, hs, hp⟩ := Exec.exists_of_any (Sys.step sampleEnv) (Sys.init newYear)
    (handOffEvents ++ answerEvents)
    (fun s => decide (s.IdsFit ∧ s.heldIds = [1])) (by decide)
  obtain ⟨hfit, hheld⟩ := of_decide_eq_true hp
  obtain ⟨row, hrow, hst, hm, -⟩ := (held_once_along_life_cycle hs hfit).2.1 1 (by simp [hheld])
  exact ⟨s, hs, hheld, row, hrow, hst, hm⟩

/-- While nothing fails, every processed row is held in exactly one place. Once
nothing is held, every delivery that was begun has ended in its row. -/
theorem processed_is_held (hrun : Run E now₀ evs s) (hfit : s.IdsFit)
    (hfk : E.foreignKeys = true) (hev : ∀ e ∈ evs, e.failureFree) :
    (∀ id row, s.db.requests.get? id = some row →
      row.status = EmailMessageStatus.processed.asI32 → s.heldIds.count id = 1) ∧
    (s.heldIds = [] → ∀ id row, s.db.requests.get? id = some row →
      row.status = EmailMessageStatus.created.asI32 ∨
      row.status = EmailMessageStatus.stopped.asI32 ∨
      (row.status = EmailMessageStatus.sent.asI32 ∧ ∃ req m, (req, .ok m) ∈ s.hist.returned ∧
        req.rowid = some id ∧ row.messageId = some m) ∨
      (row.status = EmailMessageStatus.failed.asI32 ∧ ∃ req e, (req, .error e) ∈ s.hist.returned ∧
        req.rowid = some id ∧ row.error = some e.toText)) := by
  have h := hrun.inv hfit
  have hheld : ∀ id row, s.db.requests.get? id = some row →
      row.status = EmailMessageStatus.processed.asI32 → id ∈ s.heldIds := by
    intro id row hrow hst
    have hp : s.book.phase id = some .taken :=
      Sys.book_phase_eq_some.2 ⟨row, hrow, RequestRow.phase_eq_taken.2 hst⟩
    exact mem_heldIds.2 (hrun.conserved hfit hfk hev id hp)
  refine ⟨fun id row hrow hst => ?_, fun hempty id row hrow => ?_⟩
  · exact List.count_eq_one_of_mem (Multiset.coe_nodup.1 h.book.nodup) (hheld id row hrow hst)
  · cases h.rows.recorded id row hrow with
    | blank status =>
      rcases status with hs | hs | hs
      · exact Or.inl hs
      · have := hheld id row hrow hs
        rw [hempty] at this
        cases this
      · exact Or.inr (Or.inl hs)
    | sent mem rowid status messageId _ =>
      exact Or.inr (Or.inr (Or.inl ⟨status, _, _, mem, rowid, messageId⟩))
    | failed mem rowid status _ error =>
      exact Or.inr (Or.inr (Or.inr ⟨status, _, _, mem, rowid, error⟩))

theorem processed_is_held_sample :
    ∃ s, Run sampleEnv newYear (handOffEvents ++ answerEvents ++ flushEvents) s ∧
      s.heldIds = [] ∧ ∃ row, s.db.requests.get? 1 = some row ∧
        ∃ req m, (req, .ok m) ∈ s.hist.returned ∧ row.messageId = some m := by
  obtain ⟨s, hs, hp⟩ := Exec.exists_of_any (Sys.step sampleEnv) (Sys.init newYear)
    (handOffEvents ++ answerEvents ++ flushEvents)
    (fun s => decide (s.IdsFit ∧ s.heldIds = []) &&
      (s.db.requests.get? 1).any fun row => row.status = EmailMessageStatus.sent.asI32) (by decide)
  simp only [Bool.and_eq_true, decide_eq_true_eq, Option.any_eq_true] at hp
  obtain ⟨⟨hfit, hempty⟩, row, hrow, hst⟩ := hp
  have hev : ∀ e ∈ handOffEvents ++ answerEvents ++ flushEvents, e.failureFree := by
    simp [handOffEvents, answerEvents, flushEvents, saving, Event.failureFree]
  refine ⟨s, hs, hempty, row, hrow, ?_⟩
  rcases (processed_is_held hs hfit rfl hev).2 hempty 1 row hrow with
    h | h | ⟨-, req, m, hmem, -, hm⟩ | ⟨h, -⟩
  · rw [hst] at h; exact absurd h (by decide)
  · rw [hst] at h; exact absurd h (by decide)
  · exact ⟨req, m, hmem, hm⟩
  · rw [hst] at h; exact absurd h (by decide)

end Ses
