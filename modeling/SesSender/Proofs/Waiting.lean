import SesSender.Proofs.Overtaking
import SesSender.Spec.Polling

/-! How long a row that is due waits for the scheduler: a sleep that had begun, and
one poll for each batch that goes before it. -/

namespace Ses

open Calendar

variable {E : Env} {T : Delays} {p q r : Polled} {e : TimedEvent}

/-! ## What a step can do -/

inductive Polled.Step (E : Env) (T : Delays) (p : Polled) : TimedEvent → Polled → Prop where
  | elapse (ms) (le : p.clock + ms ≤ p.phase.limit T) :
      Step E T p (.elapse ms) { p with clock := p.clock + ms }
  | spawned (none : p.sys.schedulers = []) :
      Step E T p (.sys .spawnScheduler) { p with sys := { p.sys with schedulers := [.idle] } }
  | restarted (down) :
      Step E T p (.restart down) (.boot (Sys.boot p.sys.db p.sys.now p.sys.hist) (p.clock + down))
  | polled {j chosen ok wake t} (phase : p.phase = .sleeping wake) (awake : wake ≤ p.clock)
      (step : p.sys.step E (.claimBatch j chosen ok) = some t) :
      Step E T p (.sys (.claimBatch j chosen ok)) (p.after (.claimBatch j chosen ok) t)
  | other {e t} (claim : e.isClaim = false) (spawn : e ≠ .spawnScheduler) (restart : e ≠ .restart)
      (step : p.sys.step E e = some t) : Step E T p (.sys e) (p.after e t)

theorem Polled.Step.of_step (h : p.step E T e = some q) : p.Step E T e q := by
  cases e with
  | elapse ms =>
    change (if p.clock + ms ≤ p.phase.limit T then _ else _) = _ at h
    split_ifs at h with hle
    obtain rfl := Option.some.inj h
    exact .elapse ms hle
  | restart down =>
    obtain rfl : Polled.boot (Sys.boot p.sys.db p.sys.now p.sys.hist) (p.clock + down) = q :=
      Option.some.inj h
    exact .restarted down
  | sys e =>
    by_cases hspawn : e = .spawnScheduler
    · subst hspawn
      simp only [Polled.step] at h
      split_ifs at h with hnone
      obtain ⟨t, ht, rfl⟩ := Option.map_eq_some_iff.1 h
      obtain rfl := Option.some.inj ht
      rw [List.isEmpty_iff.1 hnone]
      exact .spawned (List.isEmpty_iff.1 hnone)
    by_cases hrestart : e = .restart
    · subst hrestart
      cases h
    have hgen : (if e.isClaim && !p.phase.awake p.clock then none
        else (p.sys.step E e).map (p.after e)) = some q := by
      cases e with
      | spawnScheduler => exact absurd rfl hspawn
      | restart => exact absurd rfl hrestart
      | _ => exact h
    split_ifs at hgen with hgate
    obtain ⟨t, ht, rfl⟩ := Option.map_eq_some_iff.1 hgen
    cases hclaim : e.isClaim with
    | false => exact .other hclaim hspawn hrestart ht
    | true =>
      rw [hclaim, Bool.true_and, Bool.not_eq_true', Bool.not_eq_false] at hgate
      cases e with
      | claimBatch j chosen ok =>
        cases hphase : p.phase with
        | sleeping wake =>
          rw [hphase] at hgate
          exact .polled hphase (of_decide_eq_true hgate) ht
        | polling since => rw [hphase] at hgate; cases hgate
      | _ => cases hclaim

/-- The steps of `fetch_and_process_batch`. -/
def Event.polls : Event → Bool
  | .claimBatch _ _ _ => true
  | .fetchContents _ _ _ => true
  | .schedulerSend _ _ => true
  | _ => false

section Scheduler

variable {s t : Sys} {ev : Event}

/-- A poll begins with an idle scheduler and goes on with a busy one. -/
theorem Sys.poll_scheduler (hs : s.step E ev = some t) (hp : ev.polls = true) :
    ∃ (j : ℕ) (c : Scheduler), s.schedulers[j]? = some c ∧ (c = .idle ↔ ev.isClaim = true) := by
  cases ev with
  | claimBatch j chosen ok =>
    change s.claimBatch j chosen ok = some t at hs
    unfold Sys.claimBatch at hs
    split at hs
    · exact ⟨j, _, ‹_›, by simp [Event.isClaim]⟩
    · cases hs
  | fetchContents j rows ok =>
    change s.fetchContents j rows ok = some t at hs
    unfold Sys.fetchContents at hs
    split at hs
    · exact ⟨j, _, ‹_›, by simp [Event.isClaim]⟩
    · cases hs
  | schedulerSend j ok =>
    change s.schedulerSend E j ok = some t at hs
    unfold Sys.schedulerSend at hs
    split at hs
    · exact ⟨j, _, ‹_›, by simp [Event.isClaim]⟩
    · cases hs
  | _ => cases hp

theorem Sys.Step.length_schedulers (hs : s.Step E ev t) (hp : ev.polls = true) :
    t.schedulers.length = s.schedulers.length := by
  cases hs with
  | claimFailed => rfl
  | claimUnread => exact List.length_set
  | claimed => exact List.length_set
  | fetchFailed => exact List.length_set
  | fetchUnread => exact List.length_set
  | fetched => exact List.length_set
  | schedulerSent => exact List.length_set
  | schedulerClosed => exact List.length_set
  | _ => cases hp

theorem Sys.Step.schedulers_eq (hs : s.Step E ev t) (hp : ev.polls = false)
    (hspawn : ev ≠ .spawnScheduler) (hrestart : ev ≠ .restart) : t.schedulers = s.schedulers := by
  cases hs with
  | spawnScheduler => exact absurd rfl hspawn
  | restart => exact absurd rfl hrestart
  | claimFailed => cases hp
  | claimUnread => cases hp
  | claimed => cases hp
  | fetchFailed => cases hp
  | fetchUnread => cases hp
  | fetched => cases hp
  | schedulerSent => cases hp
  | schedulerClosed => cases hp
  | _ => rfl

theorem Sys.pollResult_of_not_polls (hp : ev.polls = false) : s.pollResult t ev = none := by
  unfold Sys.pollResult
  split
  · cases hp
  · cases hp
  · cases hp
  · rfl

/-- A poll goes on as long as the scheduler is busy. -/
theorem Sys.pollResult_eq_none {c : Scheduler} (hc : t.schedulers = [c]) (hp : ev.polls = true) :
    s.pollResult t ev = none ↔ c ≠ .idle := by
  unfold Sys.pollResult
  rw [hc]
  cases c with
  | idle => cases ev <;> first | (cases hp; done) | simp
  | _ => simp

theorem Sys.pollResult_empty (h : s.pollResult t ev = some .empty) :
    ∃ j, ev = .claimBatch j [] true := by
  unfold Sys.pollResult at h
  split at h
  · rename_i j chosen ok _
    split_ifs at h with hnone
    · obtain ⟨rfl, rfl⟩ := hnone
      exact ⟨j, rfl⟩
    · cases h
  · split_ifs at h <;> cases h
  · split_ifs at h <;> cases h
  · cases h

end Scheduler

/-! ## The loop -/

inductive Polled.Inv (T : Delays) (p : Polled) : Prop where
  | asleep {wake} (phase : p.phase = .sleeping wake)
      (idle : p.sys.schedulers = [] ∨ p.sys.schedulers = [.idle])
      (late : p.clock ≤ wake + T.late) (soon : wake ≤ p.clock + IDLE_DELAY_SECS * 2 * 1000)
  | awake {since c} (phase : p.phase = .polling since) (busy : p.sys.schedulers = [c])
      (ne_idle : c ≠ .idle) (began : since ≤ p.clock) (within : p.clock ≤ since + T.poll)

theorem Polled.goToSleep_inv {r : PollResult}
    (idle : p.sys.schedulers = [] ∨ p.sys.schedulers = [.idle]) : (p.goToSleep r).Inv T := by
  cases r with
  | empty =>
    refine .asleep rfl idle ?_ ?_
    · exact Nat.le_add_right_of_le (Nat.le_add_right _ _)
    · refine Nat.add_le_add_left (Nat.mul_le_mul_right _ ?_) _
      split
      · exact le_rfl
      · decide
  | processed =>
    exact .asleep rfl idle (Nat.le_add_right_of_le (Nat.le_add_right _ _))
      (Nat.add_le_add_left (by decide) _)
  | failed =>
    exact .asleep rfl idle (Nat.le_add_right_of_le (Nat.le_add_right _ _))
      (Nat.add_le_add_left (by decide) _)

/-- The last step of a poll sends the loop to sleep, any other goes on. -/
theorem Polled.after_poll {ev : Event} {t : Sys} {c : Scheduler} (hp : ev.polls = true)
    (hc : t.schedulers = [c]) :
    (c = .idle ∧ ∃ r, p.sys.pollResult t ev = some r ∧
      p.after ev t = ({ p with sys := t } : Polled).goToSleep r) ∨
    (c ≠ .idle ∧ p.sys.pollResult t ev = none ∧ p.after ev t =
      { p with sys := t, phase := if ev.isClaim then .polling p.clock else p.phase }) := by
  cases hr : p.sys.pollResult t ev with
  | none =>
    refine Or.inr ⟨(Sys.pollResult_eq_none hc hp).1 hr, rfl, ?_⟩
    rw [Polled.after, hr]
  | some r =>
    refine Or.inl ⟨?_, r, rfl, ?_⟩
    · by_contra hne
      rw [(Sys.pollResult_eq_none hc hp).2 hne] at hr
      cases hr
    · rw [Polled.after, hr]

/-- One scheduler before a poll's step is one after it. -/
theorem Sys.Step.one_scheduler {s t : Sys} {ev : Event} {c : Scheduler} (hs : s.Step E ev t)
    (hp : ev.polls = true) (hc : s.schedulers = [c]) : ∃ c', t.schedulers = [c'] := by
  have hlen := hs.length_schedulers hp
  rw [hc] at hlen
  exact List.length_eq_one_iff.1 hlen

theorem Polled.Inv.scheduler {ev : Event} {t : Sys} (h : p.Inv T) (hs : p.sys.step E ev = some t)
    (hp : ev.polls = true) :
    ∃ c, p.sys.schedulers = [c] ∧ (c = .idle ↔ ev.isClaim = true) := by
  obtain ⟨j, c, hj, hc⟩ := Sys.poll_scheduler hs hp
  have hone : ∀ {c' : Scheduler}, p.sys.schedulers = [c'] → c' = c := by
    intro c' h'
    rw [h'] at hj
    exact List.mem_singleton.1 (List.mem_of_getElem? hj) |>.symm
  cases h with
  | asleep _ idle =>
    rcases idle with hnone | hidle
    · rw [hnone] at hj
      cases hj
    · exact ⟨.idle, hidle, hone hidle ▸ hc⟩
  | awake _ busy => exact ⟨_, busy, hone busy ▸ hc⟩

theorem Polled.Inv.step (hs : p.Step E T e q) (h : p.Inv T) : q.Inv T := by
  cases hs with
  | elapse ms le =>
    cases h with
    | asleep phase idle late soon =>
      rw [phase] at le
      exact .asleep phase idle le (soon.trans (Nat.add_le_add_right (Nat.le_add_right _ _) _))
    | awake phase busy ne_idle began within =>
      rw [phase] at le
      exact .awake phase busy ne_idle (began.trans (Nat.le_add_right _ _)) le
  | spawned none =>
    cases h with
    | asleep phase _ late soon => exact .asleep phase (Or.inr rfl) late soon
    | awake _ busy => rw [none] at busy; cases busy
  | restarted =>
    exact .asleep rfl (Or.inl rfl) (Nat.le_add_right _ _) (Nat.le_add_right _ _)
  | @polled j chosen ok _ _ phase awake step =>
    have hp : (Event.claimBatch j chosen ok).polls = true := rfl
    obtain ⟨c, hc, -⟩ := h.scheduler step hp
    obtain ⟨c', hc'⟩ := (Sys.Step.of_step step).one_scheduler hp hc
    rcases Polled.after_poll (p := p) hp hc' with ⟨rfl, r, -, hq⟩ | ⟨hne, -, hq⟩
    · rw [hq]
      exact Polled.goToSleep_inv (Or.inr hc')
    · rw [hq]
      exact .awake rfl hc' hne le_rfl (Nat.le_add_right _ _)
  | @other ev t claim spawn restart step =>
    have hst := Sys.Step.of_step step
    cases hp : ev.polls with
    | false =>
      have hsame := hst.schedulers_eq hp spawn restart
      rw [Polled.after, Sys.pollResult_of_not_polls hp]
      simp only [claim, Bool.false_eq_true, if_false]
      cases h with
      | asleep phase idle late soon => exact .asleep phase (hsame ▸ idle) late soon
      | awake phase busy ne_idle began within =>
        exact .awake phase (hsame ▸ busy) ne_idle began within
    | true =>
      obtain ⟨c, hc, hclaim⟩ := h.scheduler step hp
      have hbusy : c ≠ .idle := fun heq => by rw [hclaim.1 heq] at claim; cases claim
      obtain ⟨c', hc'⟩ := hst.one_scheduler hp hc
      rcases Polled.after_poll (p := p) hp hc' with ⟨rfl, r, -, hq⟩ | ⟨hne, -, hq⟩
      · rw [hq]
        exact Polled.goToSleep_inv (Or.inr hc')
      · rw [hq]
        cases h with
        | asleep _ idle =>
          rcases idle with hnone | hidle
          · rw [hnone] at hc
            cases hc
          · rw [hidle] at hc
            exact absurd (List.singleton_inj.1 hc).symm hbusy
        | awake phase _ _ began within =>
          exact .awake (by simpa [claim] using phase) hc' hne began within

/-! ## When the next poll is due -/

/-- A poll that goes through, the sleep after it, and how late that one may end. -/
def Delays.perPoll (T : Delays) : ℕ := T.poll + (BATCH_DELAY_MS + T.late)

/-- The sleep after a poll that failed. -/
def Delays.perFailure (T : Delays) : ℕ := ERROR_BACKOFF_SECS * 1000 + T.late

/-- The time up to which the loop can wait before its next poll, unless the one it
is in fails. -/
def Polled.deadline (T : Delays) (p : Polled) : ℕ :=
  match p.phase with
  | .sleeping wake => wake + T.late
  | .polling since => since + T.perPoll

theorem Polled.deadline_asleep {wake : ℕ} (h : p.phase = .sleeping wake) :
    p.deadline T = wake + T.late := by
  rw [Polled.deadline, h]

theorem Polled.deadline_awake {since : ℕ} (h : p.phase = .polling since) :
    p.deadline T = since + T.perPoll := by
  rw [Polled.deadline, h]

theorem Polled.deadline_of_phase (h : q.phase = p.phase) : q.deadline T = p.deadline T := by
  rw [Polled.deadline, Polled.deadline, h]

theorem Polled.Inv.clock_le (h : p.Inv T) : p.clock ≤ p.deadline T := by
  cases h with
  | asleep phase _ late => exact late.trans_eq (Polled.deadline_asleep phase).symm
  | awake phase _ _ _ within =>
    rw [Polled.deadline_awake phase]
    exact within.trans (Nat.add_le_add_left (Nat.le_add_right _ _) _)

/-- At most the longest sleep and the longest poll are ahead. -/
theorem Polled.Inv.deadline_le (h : p.Inv T) :
    p.deadline T ≤ p.clock + (IDLE_DELAY_SECS * 2 * 1000 + T.poll + T.late) := by
  cases h with
  | asleep phase _ _ soon =>
    rw [Polled.deadline_asleep phase]
    omega
  | awake phase _ _ began =>
    rw [Polled.deadline_awake phase]
    have hper : T.perPoll = T.poll + (BATCH_DELAY_MS + T.late) := rfl
    have : BATCH_DELAY_MS ≤ IDLE_DELAY_SECS * 2 * 1000 := by decide
    omega

/-- The poll picks other rows. -/
def Polled.passes (id : Int) (p : Polled) (e : TimedEvent) : Bool :=
  e.event.any (passesOver id p.sys)

/-- The step is the last of a poll that fails, or of the process. -/
def Polled.fails (E : Env) (p : Polled) : TimedEvent → Bool
  | .restart _ => true
  | .sys ev => (p.sys.step E ev).any fun t => p.sys.pollResult t ev = some .failed
  | .elapse _ => false

theorem Polled.fails_of_result {ev : Event} {t : Sys} (hs : p.sys.step E ev = some t)
    (hr : p.sys.pollResult t ev = some .failed) : p.fails E (.sys ev) = true := by
  simp only [Polled.fails, hs, Option.any_some]
  exact decide_eq_true hr

/-- A poll that finds the row due finds some row. -/
theorem poll_not_empty {s t : Sys} {j : ℕ} {id : Int} {row : RequestRow}
    (hs : s.Step E (.claimBatch j [] true) t) (hrow : s.db.requests.get? id = some row)
    (hdue : due s.now row = true) : False := by
  have hnone : ¬ OldestDue s.now s.db.requests [] := by
    intro hold
    have hmem : (id, row) ∈ dueRows s.now s.db.requests := mem_dueRows.2 ⟨hrow, hdue⟩
    have hpos := List.length_pos_of_mem hmem
    have hlen := hold.2.2.1
    rw [List.length_nil] at hlen
    have : 0 < Scheduler.BATCH_SIZE := by decide
    omega
  cases hs with
  | claimUnread _ oldest => exact hnone oldest
  | claimed _ oldest => exact hnone oldest

theorem Polled.Step.deadline_le (hs : p.Step E T e q) (h : p.Inv T) {id : Int} {row : RequestRow}
    (hrow : p.sys.db.requests.get? id = some row) (hdue : due p.sys.now row = true)
    (hpick : ∀ j chosen, e = .sys (.claimBatch j chosen true) → id ∉ chosen) :
    q.deadline T ≤ p.deadline T +
      (p.passes id e).toNat * T.perPoll +
      (p.fails E e).toNat * T.perFailure + e.downtime := by
  have hsame : q.phase = p.phase → q.deadline T ≤ p.deadline T +
      (p.passes id e).toNat * T.perPoll +
      (p.fails E e).toNat * T.perFailure + e.downtime := by
    intro hphase
    rw [Polled.deadline_of_phase hphase, Nat.add_assoc, Nat.add_assoc]
    exact Nat.le_add_right _ _
  have hfailed : ∀ {t : Sys}, p.fails E e = true →
      q = ({ p with sys := t } : Polled).goToSleep .failed → q.deadline T ≤ p.deadline T +
        (p.passes id e).toNat * T.perPoll +
        (p.fails E e).toNat * T.perFailure + e.downtime := by
    rintro t hf rfl
    have hclock := h.clock_le
    rw [hf, Bool.toNat_true, Nat.one_mul]
    change p.clock + ERROR_BACKOFF_SECS * 1000 + T.late ≤ _
    have hper : T.perFailure = ERROR_BACKOFF_SECS * 1000 + T.late := rfl
    omega
  cases hs with
  | elapse => exact hsame rfl
  | spawned => exact hsame rfl
  | restarted down =>
    have hclock := h.clock_le
    rw [Polled.fails, Bool.toNat_true, Nat.one_mul, TimedEvent.downtime]
    change p.clock + down + T.late ≤ _
    have hper : T.perFailure = ERROR_BACKOFF_SECS * 1000 + T.late := rfl
    omega
  | @polled j chosen ok wake t phase awake step =>
    have hp : (Event.claimBatch j chosen ok).polls = true := rfl
    obtain ⟨c, hc, hclaim⟩ := h.scheduler step hp
    have hst := Sys.Step.of_step step
    obtain ⟨c', hc'⟩ := hst.one_scheduler hp hc
    rcases Polled.after_poll (p := p) hp hc' with ⟨rfl, r, hr, hq⟩ | ⟨hne, -, hq⟩
    · cases r with
      | empty =>
        obtain ⟨j', hev⟩ := Sys.pollResult_empty hr
        cases hev
        exact (poll_not_empty hst hrow hdue).elim
      | processed =>
        simp only [Sys.pollResult, hc', Option.some.injEq] at hr
        split_ifs at hr
      | failed => exact hfailed (Polled.fails_of_result step hr) hq
    · cases ok with
      | false =>
        cases hst
        rw [hc, hclaim.2 rfl] at hc'
        exact absurd (List.singleton_inj.1 hc').symm hne
      | true =>
        have hpass : p.passes id (.sys (.claimBatch j chosen true)) = true := by
          simp [Polled.passes, TimedEvent.event, passesOver, hrow, hdue, hpick j chosen rfl]
        have hclock := h.clock_le
        rw [hq, hpass, Bool.toNat_true, Nat.one_mul]
        change p.clock + T.perPoll ≤ _
        omega
  | @other ev t claim spawn restart step =>
    have hst := Sys.Step.of_step step
    cases hp : ev.polls with
    | false =>
      refine hsame ?_
      rw [Polled.after, Sys.pollResult_of_not_polls hp]
      simp [claim]
    | true =>
      obtain ⟨c, hc, hclaim⟩ := h.scheduler step hp
      obtain ⟨c', hc'⟩ := hst.one_scheduler hp hc
      rcases Polled.after_poll (p := p) hp hc' with ⟨rfl, r, hr, hq⟩ | ⟨hne, -, hq⟩
      · cases r with
        | empty =>
          obtain ⟨j, rfl⟩ := Sys.pollResult_empty hr
          cases claim
        | processed =>
          cases h with
          | asleep _ idle =>
            rcases idle with hnone | hidle
            · rw [hnone] at hc
              cases hc
            · rw [hidle] at hc
              rw [hclaim.1 (List.singleton_inj.1 hc).symm] at claim
              cases claim
          | awake phase _ _ _ within =>
            rw [hq, Polled.deadline_awake phase]
            change p.clock + BATCH_DELAY_MS + T.late ≤ _
            have hper : T.perPoll = T.poll + (BATCH_DELAY_MS + T.late) := rfl
            omega
        | failed => exact hfailed (Polled.fails_of_result step hr) hq
      · refine hsame ?_
        rw [hq]
        simp [claim]

/-! ## A row that keeps waiting -/

@[simp] theorem Polled.after_sys {ev : Event} {t : Sys} : (p.after ev t).sys = t := by
  unfold Polled.after
  split
  · rename_i r _
    cases r <;> rfl
  · rfl

theorem Polled.step_project (h : p.step E T e = some q) :
    Exec.run (Sys.step E) p.sys e.event.toList = some q.sys := by
  cases Polled.Step.of_step h with
  | elapse => rfl
  | spawned none => exact Exec.run_cons.2 ⟨_, rfl, by rw [none]; rfl⟩
  | restarted => exact Exec.run_cons.2 ⟨_, rfl, rfl⟩
  | polled _ _ step => exact Exec.run_cons.2 ⟨_, step, by rw [Polled.after_sys]; rfl⟩
  | other _ _ _ step => exact Exec.run_cons.2 ⟨_, step, by rw [Polled.after_sys]; rfl⟩

/-- A row that is due stays so until it is picked. -/
theorem due_of_le {now now' : Instant} {row row' : RequestRow} (hle : now.secs ≤ now'.secs)
    (hlow : 0 ≤ now.year) (hhigh : now'.year ≤ 9999) (hdue : due now row = true)
    (hat : row'.scheduledAt = row.scheduledAt)
    (hwaits : row'.status = EmailMessageStatus.created.asI32) : due now' row' = true := by
  have hyear : now.year ≤ now'.year := by
    by_contra hlt
    have := DateTime.secs_lt_of_year_lt (not_le.1 hlt) now'.second_lt
    omega
  have hstamp : now.stamp ≤ now'.stamp :=
    (DateTime.stamp_le_iff ⟨hlow, by omega⟩ ⟨by omega, hhigh⟩ now'.second_lt).2 hle
  refine decide_eq_true ⟨hwaits, ?_⟩
  rw [hat]
  exact (of_decide_eq_true hdue).2.trans hstamp

/-- The row waits, and its time has come. -/
def Polled.Waits (id : Int) (row : RequestRow) (p : Polled) : Prop :=
  ∃ row', p.sys.db.requests.get? id = some row' ∧ row'.scheduledAt = row.scheduledAt ∧
    due p.sys.now row' = true

theorem Polled.Waits.step {evs : List TimedEvent} {id : Int} {row row' : RequestRow}
    (hw : p.Waits id row) (hstep : p.step E T e = some q)
    (hrun : Exec.run (Polled.step E T) q evs = some r) (hfit : r.sys.IdsFit) (h : p.sys.Inv E)
    (hrow' : r.sys.db.requests.get? id = some row')
    (hwaits : row'.status = EmailMessageStatus.created.asI32)
    (hlow : 0 ≤ p.sys.now.year) (hhigh : r.sys.now.year ≤ 9999) :
    q.Waits id row ∧ ∀ j chosen, e = .sys (.claimBatch j chosen true) → id ∉ chosen := by
  have hnext := Polled.step_project hstep
  have hrest := Exec.run_project Polled.step_project hrun
  obtain ⟨row₀, hrow₀, hat, hdue⟩ := hw
  obtain ⟨row₁, hrow₁, hat₁⟩ := (grows_of_run hnext).rows id row₀ hrow₀
  have hfit₁ : q.sys.IdsFit := (grows_of_run hrest).seq.trans hfit
  have hfree₀ := h.not_mem_handlerIds hrow₀ (of_decide_eq_true hdue).1
  have hafter : q.sys.Inv E ∧ id ∉ q.sys.handlerIds := by
    cases he : e.event with
    | none =>
      rw [he] at hnext
      rw [← Exec.run_nil.1 hnext]
      exact ⟨h, hfree₀⟩
    | some ev =>
      rw [he] at hnext
      obtain ⟨t, ht, hnil⟩ := Exec.run_cons.1 hnext
      obtain rfl := Exec.run_nil.1 hnil
      have hs := Sys.Step.of_step ht
      refine ⟨h.step hs hfit₁, fun hmem => ?_⟩
      have := Table.le_seq_of_get? hrow₀
      rcases hs.handlerIds hfit₁ hmem with hmem | hlt
      · exact hfree₀ hmem
      · omega
  -- what is picked would not wait again
  have hwaits₁ : row₁.status = EmailMessageStatus.created.asI32 := by
    by_contra hne
    exact status_ne_of_run hrest hfit hafter.1 hrow₁ hafter.2 hne hrow' hwaits
  have hyear₁ : q.sys.now.year ≤ 9999 := by
    by_contra hlt
    have := DateTime.secs_lt_of_year_lt (show r.sys.now.year < q.sys.now.year by omega)
      r.sys.now.second_lt
    have := (grows_of_run hrest).now
    omega
  refine ⟨⟨row₁, hrow₁, hat₁.trans hat,
    due_of_le (grows_of_run hnext).now hlow hyear₁ hdue hat₁ hwaits₁⟩, ?_⟩
  rintro j chosen rfl hmem
  obtain ⟨t, ht, hnil⟩ := Exec.run_cons.1 hnext
  obtain rfl := Exec.run_nil.1 hnil
  have hpicked : q.sys.db.requests = claim p.sys.now chosen p.sys.db.requests := by
    have hs := Sys.Step.of_step ht
    generalize q.sys = t at hs
    cases hs with
    | claimUnread => rfl
    | claimed => rfl
  rw [hpicked, get?_claim, hrow₀, Option.map_some, if_pos hmem] at hrow₁
  obtain rfl := Option.some.inj hrow₁
  cases hwaits₁

/-! ## How long it waits -/

/-- What a run adds to the deadline. -/
theorem Polled.Waits.run {evs : List TimedEvent} {id : Int} {row row' : RequestRow}
    (hw : p.Waits id row) (hrun : Exec.run (Polled.step E T) p evs = some q)
    (hfit : q.sys.IdsFit) (h : p.Inv T) (hsys : p.sys.Inv E)
    (hrow' : q.sys.db.requests.get? id = some row')
    (hwaits : row'.status = EmailMessageStatus.created.asI32)
    (hlow : 0 ≤ p.sys.now.year) (hhigh : q.sys.now.year ≤ 9999) :
    q.Inv T ∧ q.deadline T ≤ p.deadline T +
      Exec.worked (Polled.step E T) (Polled.passes id) p evs * T.perPoll +
      Exec.worked (Polled.step E T) (Polled.fails E) p evs * T.perFailure +
      (evs.map TimedEvent.downtime).sum := by
  induction evs generalizing p with
  | nil =>
    obtain rfl := Exec.run_nil.1 hrun
    exact ⟨h, Nat.le_add_right_of_le (Nat.le_add_right_of_le (Nat.le_add_right _ _))⟩
  | cons e evs ih =>
    obtain ⟨u, hu, hr⟩ := Exec.run_cons.1 hrun
    have hs := Polled.Step.of_step hu
    obtain ⟨hwu, hpick⟩ := hw.step hu hr hfit hsys hrow' hwaits hlow hhigh
    obtain ⟨rowp, hrowp, -, hduep⟩ := hw
    have hnext := grows_of_run (Polled.step_project hu)
    have hlowu : 0 ≤ u.sys.now.year := by
      by_contra hlt
      have := DateTime.secs_lt_of_year_lt (show u.sys.now.year < p.sys.now.year by omega)
        u.sys.now.second_lt
      have := hnext.now
      omega
    have hfitu : u.sys.IdsFit :=
      (grows_of_run (Exec.run_project Polled.step_project hr)).seq.trans hfit
    have hsysu : u.sys.Inv E := hsys.run (Polled.step_project hu) hfitu
    obtain ⟨hq, hle⟩ := ih hwu hr (h.step hs) hsysu hlowu
    refine ⟨hq, ?_⟩
    have hstep := hs.deadline_le h hrowp hduep hpick
    rw [Exec.worked, Exec.worked, hu, Option.elim_some, Option.elim_some, Nat.add_mul, Nat.add_mul,
      List.map_cons, List.sum_cons]
    omega

/-- A row that is due is picked after the sleep and the poll that have begun, one poll
for each batch that has overtaken it, a back-off for each failure, and as long as the
process was down. -/
theorem due_row_waits {now₀ : Instant} {evs evs' : List TimedEvent} {id : Int}
    {row row' : RequestRow} (hp : PolledRun E T now₀ evs p)
    (hrun : Exec.run (Polled.step E T) p evs' = some q) (hfit : q.sys.IdsFit)
    (hlow : 0 ≤ now₀.year) (hhigh : q.sys.now.year ≤ 9999)
    (hrow : p.sys.db.requests.get? id = some row) (hdue : due p.sys.now row = true)
    (hrow' : q.sys.db.requests.get? id = some row')
    (hwaits : row'.status = EmailMessageStatus.created.asI32) :
    q.clock ≤ p.clock + (IDLE_DELAY_SECS * 2 * 1000 + T.poll + T.late) +
      (overtaking id row.scheduledAt q.sys.db.requests).length / Scheduler.BATCH_SIZE * T.perPoll +
      Exec.worked (Polled.step E T) (Polled.fails E) p evs' * T.perFailure +
      (evs'.map TimedEvent.downtime).sum := by
  have hpolled : Exec.run (Polled.step E T) (Polled.boot (Sys.init now₀) 0) evs = some p := hp
  have hproject : Exec.run (Sys.step E) (Polled.boot (Sys.init now₀) 0).sys
      (evs.filterMap TimedEvent.event) = some p.sys :=
    Exec.run_project Polled.step_project hpolled
  have hsys : Run E now₀ (evs.filterMap TimedEvent.event) p.sys := hproject
  have hrest := Exec.run_project Polled.step_project hrun
  have hinv := hsys.inv ((grows_of_run hrest).seq.trans hfit)
  have hloop : p.Inv T :=
    Exec.run_keeps (fun h => Polled.Inv.step (Polled.Step.of_step h)) hp
      (.asleep rfl (Or.inl rfl) (Nat.zero_le _) (Nat.zero_le _))
  have hyear : 0 ≤ p.sys.now.year := by
    by_contra hlt
    have := DateTime.secs_lt_of_year_lt (show p.sys.now.year < now₀.year by omega)
      p.sys.now.second_lt
    have hle : now₀.secs ≤ p.sys.now.secs := (grows_of_run hsys).now
    omega
  have hwait : p.Waits id row := ⟨row, hrow, rfl, hdue⟩
  obtain ⟨hq, hle⟩ := hwait.run hrun hfit hloop hinv hrow' hwaits hyear hhigh
  -- the polls that pass over it are polls of the system below
  have hat : row'.scheduledAt = row.scheduledAt := by
    obtain ⟨row₁, hrow₁, hat₁⟩ := (grows_of_run hrest).rows id row hrow
    obtain rfl := Option.some.inj (hrow₁.symm.trans hrow')
    exact hat₁
  have hover : Overtook id row'.scheduledAt p.sys [] := ⟨List.nodup_nil, nofun⟩
  obtain ⟨ids, hover', hlen⟩ := hover.run hrest hfit hinv hrow'
  have hcount : Exec.worked (Sys.step E) (passesOver id) p.sys
      (evs'.filterMap TimedEvent.event) =
      Exec.worked (Polled.step E T) (Polled.passes id) p evs' :=
    Exec.worked_project Polled.step_project (fun _ _ => rfl) hrun
  have hpassed : Exec.worked (Polled.step E T) (Polled.passes id) p evs' ≤
      (overtaking id row.scheduledAt q.sys.db.requests).length / Scheduler.BATCH_SIZE := by
    rw [Nat.le_div_iff_mul_le (by decide), Nat.mul_comm, ← hat, ← hcount]
    exact (Nat.le_add_right _ _).trans (hlen ▸ hover'.length_le)
  have hbatches := Nat.mul_le_mul_right T.perPoll hpassed
  have hfirst := hloop.deadline_le
  have hlast := hq.clock_le
  omega

/-- The row comes due. -/
def comingDue : List TimedEvent :=
  [.sys (.request (sampleMail "a" (some "2030-01-01 09:00:00")))] ++ (saving 0).map .sys ++
    [.sys (.tick nextYear)]

/-- The first poll of the process fails, and then the process is down for an hour. -/
def backOff : List TimedEvent :=
  [.sys .spawnScheduler, .sys (.claimBatch 0 [] false), .elapse 5000, .restart 3600000]

theorem due_row_waits_sample : ∃ p q, PolledRun sampleEnv ⟨20, 1000⟩ newYear comingDue p ∧
    Exec.run (Polled.step sampleEnv ⟨20, 1000⟩) p backOff = some q ∧ q.clock = 3605000 ∧
    q.clock ≤ 21020 + 2 * 5020 + 3600000 := by
  obtain ⟨p, hp, h⟩ := Exec.exists_of_any (Polled.step sampleEnv ⟨20, 1000⟩)
    (Polled.boot (Sys.init newYear) 0) comingDue
    (fun p => decide (p.clock = 0) && (p.sys.db.requests.get? 1).any (fun row =>
      due p.sys.now row && decide (row.scheduledAt = "2030-01-01 00:00:00")) &&
      decide (Exec.worked (Polled.step sampleEnv ⟨20, 1000⟩) (Polled.fails sampleEnv) p backOff = 2) &&
      (Exec.run (Polled.step sampleEnv ⟨20, 1000⟩) p backOff).any fun (q : Polled) =>
        decide (q.clock = 3605000 ∧ q.sys.IdsFit ∧ q.sys.now.year = 2031) &&
        ((q.sys.db.requests.get? 1).any fun row =>
          decide (row.status = EmailMessageStatus.created.asI32)) &&
        decide ((overtaking 1 "2030-01-01 00:00:00" q.sys.db.requests).length = 0)) (by decide)
  simp only [Bool.and_eq_true, decide_eq_true_eq, Option.any_eq_true] at h
  obtain ⟨⟨⟨hclock, row, hrow, hdue, hat⟩, hfails⟩, q, hq, ⟨⟨hclock', hfit, hyear⟩, row', hrow', hwaits⟩,
    hover⟩ := h
  have hle := due_row_waits hp hq hfit (by decide) (by omega) hrow hdue hrow' hwaits
  rw [hclock, hfails, hat, hover] at hle
  exact ⟨p, q, hp, hq, hclock', hle⟩

end Ses
