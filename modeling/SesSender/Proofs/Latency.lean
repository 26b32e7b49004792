import SesSender.Proofs.Overtaking
import SesSender.Proofs.Flush
import SesSender.Spec.TimedPost

/-! How soon the post-processor writes what it receives, and how few statements it
takes. -/

namespace Ses

variable {E : Env} {T : PostDelays} {p q : TimedPost} {e : TimedEvent}

/-! ## What a step can do -/

theorem TimedPost.step_cases (h : p.step E T e = some q) :
    (∃ ms, e = .elapse ms ∧ p.lasts T (p.clock + ms) = true ∧
      q = { p with clock := p.clock + ms }) ∨
    (∃ down, e = .restart down ∧
      q = .boot (Sys.boot p.sys.db p.sys.now p.sys.hist) (p.clock + down)) ∨
    (∃ ev t, e = .sys ev ∧ ev ≠ .restart ∧ p.allows ev = true ∧ p.sys.step E ev = some t ∧
      q = p.after t ev) := by
  cases e with
  | elapse ms =>
    change (if p.lasts T (p.clock + ms) then _ else _) = _ at h
    split_ifs at h with hl
    exact Or.inl ⟨ms, rfl, hl, (Option.some.inj h).symm⟩
  | restart down => exact Or.inr (Or.inl ⟨down, rfl, (Option.some.inj h).symm⟩)
  | sys ev =>
    by_cases hrestart : ev = .restart
    · subst hrestart
      cases h
    have hgen : (if p.allows ev then (p.sys.step E ev).map fun t => p.after t ev else none) =
        some q := by
      cases ev with
      | restart => exact absurd rfl hrestart
      | _ => exact h
    split_ifs at hgen with ha
    obtain ⟨t, ht, rfl⟩ := Option.map_eq_some_iff.1 hgen
    exact Or.inr (Or.inr ⟨ev, t, rfl, hrestart, ha, ht, rfl⟩)

theorem TimedPost.afterFlush_sys {t : Sys} : (p.afterFlush t).sys = t := by
  unfold TimedPost.afterFlush
  split <;> rfl

@[simp] theorem TimedPost.after_flushBulk {ok : Bool} {t : Sys} :
    p.after t (.flushBulk ok) = p.afterFlush t := rfl

@[simp] theorem TimedPost.after_flushOne {ok : Bool} {t : Sys} :
    p.after t (.flushOne ok) = p.afterFlush t := rfl

@[simp] theorem TimedPost.after_sys {ev : Event} {t : Sys} : (p.after t ev).sys = t := by
  cases ev with
  | flushBulk => exact TimedPost.afterFlush_sys
  | flushOne => exact TimedPost.afterFlush_sys
  | _ => rfl

theorem TimedPost.step_project (h : p.step E T e = some q) :
    Exec.run (Sys.step E) p.sys e.event.toList = some q.sys := by
  rcases TimedPost.step_cases h with
    ⟨ms, rfl, -, rfl⟩ | ⟨down, rfl, rfl⟩ | ⟨ev, t, rfl, -, -, ht, rfl⟩
  · rfl
  · exact Exec.run_cons.2 ⟨_, rfl, rfl⟩
  · exact Exec.run_cons.2 ⟨t, ht, by rw [TimedPost.after_sys]; rfl⟩

/-! ## The clock of the loop -/

structure TimedPost.Inv (T : PostDelays) (p : TimedPost) : Prop where
  since : p.since ≤ p.clock
  lastFlush : p.lastFlush ≤ p.since
  lasts : p.lasts T p.clock = true
  young : ∀ batch, p.sys.post = .collecting batch → batch ≠ [] →
    p.since < p.lastFlush + BATCH_FLUSH_INTERVAL_MS

theorem TimedPost.lasts_collecting {batch : List EmailRequest} {c : ℕ}
    (h : p.sys.post = .collecting batch) :
    p.lasts T c = true ↔ c ≤ p.since + (BATCH_RECV_TIMEOUT_MS + T.late) := by
  simp [TimedPost.lasts, h]

theorem TimedPost.lasts_flushing {batch : List EmailRequest} {last : Bool} {c : ℕ}
    (h : p.sys.post = .flushing batch last ∨ p.sys.post = .draining batch last) :
    p.lasts T c = true ↔ c ≤ p.since + T.flush := by
  rcases h with h | h <;> simp [TimedPost.lasts, h]

/-- Where the loop just went on, it lasts. -/
theorem TimedPost.lasts_since (h : p.clock = p.since) : p.lasts T p.clock = true := by
  unfold TimedPost.lasts
  split <;> simp [h]

theorem TimedPost.Inv.boot (s : Sys) (clock : ℕ) (h : s.post = .collecting []) :
    (TimedPost.boot s clock).Inv T := by
  refine ⟨le_rfl, le_rfl, TimedPost.lasts_since rfl, fun batch hb hne => ?_⟩
  obtain rfl : [] = batch := PostProcessor.collecting.inj (h.symm.trans hb)
  exact absurd rfl hne

/-- An iteration that does not flush ends before the last flush is too old. -/
theorem TimedPost.Inv.iterated {batch : List EmailRequest} {t : Sys} (h : p.Inv T)
    (ev : PostEvent) (hpost : t.post = .iterate batch p.elapsed ev)
    (hclosed : ev ≠ .closed) : ({ p with sys := t, since := p.clock } : TimedPost).Inv T := by
  refine ⟨le_rfl, h.lastFlush.trans h.since, TimedPost.lasts_since rfl, fun batch' hb hne => ?_⟩
  have hb' : t.post = .collecting batch' := hb
  rw [hpost] at hb'
  have hyoung : p.elapsed = false := by
    by_contra hold
    rw [Bool.not_eq_false] at hold
    cases ev with
    | received req =>
      rw [PostProcessor.iterate, if_pos (Or.inr hold)] at hb'
      cases hb'
    | closed => exact hclosed rfl
    | timeout =>
      rw [PostProcessor.iterate, hold, Bool.and_true] at hb'
      split_ifs at hb' with hemp
      obtain rfl := PostProcessor.collecting.inj hb'
      exact hemp (by simpa using hne)
  have := of_decide_eq_false hyoung
  have := h.lastFlush.trans h.since
  change p.clock < p.lastFlush + _
  omega

theorem TimedPost.Inv.afterFlush {t : Sys} {batch : List EmailRequest} {last : Bool} (h : p.Inv T)
    (hpost : p.sys.post = .flushing batch last ∨ p.sys.post = .draining batch last)
    (hnext : t.post = .afterFlush last ∨ ∃ rest, t.post = .draining rest last) :
    (p.afterFlush t).Inv T := by
  have hflush := (TimedPost.lasts_flushing hpost).1 h.lasts
  unfold TimedPost.afterFlush
  split
  · rename_i batch' hc
    refine ⟨le_rfl, le_rfl, TimedPost.lasts_since rfl, fun batch'' hb hne => ?_⟩
    rcases hnext with hnext | ⟨rest, hnext⟩ <;> rw [show t.post = .collecting batch'' from hb] at hnext
    · cases last with
      | true => cases hnext
      | false => exact absurd (PostProcessor.collecting.inj hnext) hne
    · cases hnext
  · rename_i hc
    refine ⟨h.since, h.lastFlush, ?_, fun batch' hb => absurd hb (hc batch')⟩
    rcases hnext with hnext | ⟨rest, hnext⟩
    · cases last with
      | true => simp [TimedPost.lasts, hnext, PostProcessor.afterFlush]
      | false => exact absurd hnext (hc [])
    · exact (TimedPost.lasts_flushing (Or.inr hnext)).2 hflush

theorem TimedPost.Inv.step (hs : p.step E T e = some q) (h : p.Inv T) : q.Inv T := by
  rcases TimedPost.step_cases hs with
    ⟨ms, rfl, hl, rfl⟩ | ⟨down, rfl, rfl⟩ | ⟨ev, t, rfl, hrestart, ha, ht, rfl⟩
  · exact ⟨h.since.trans (Nat.le_add_right _ _), h.lastFlush, hl, h.young⟩
  · exact .boot _ _ rfl
  · have hst := Sys.Step.of_step ht
    have hsame : t.post = p.sys.post → ({ p with sys := t } : TimedPost).Inv T := by
      intro hpost
      refine ⟨h.since, h.lastFlush, ?_, fun batch hb => h.young batch (hpost.symm.trans hb)⟩
      have hl := h.lasts
      unfold TimedPost.lasts at hl ⊢
      rw [← hpost] at hl
      exact hl
    cases hst with
    | @postRecv elapsed batch req queue post queued =>
      obtain rfl : elapsed = p.elapsed := of_decide_eq_true ha
      exact h.iterated (.received req) rfl fun heq => by cases heq
    | @postTimeout elapsed batch post =>
      obtain rfl : elapsed = p.elapsed := of_decide_eq_true (Bool.and_eq_true_iff.1 ha).1
      exact h.iterated .timeout rfl fun heq => by cases heq
    | @postClosed batch post =>
      refine ⟨le_rfl, h.lastFlush.trans h.since, TimedPost.lasts_since rfl, fun batch' hb => ?_⟩
      change PostProcessor.iterate batch false .closed = _ at hb
      rw [PostProcessor.iterate] at hb
      split_ifs at hb
    | flushed post => exact h.afterFlush (Or.inl post) (Or.inl rfl)
    | @flushFailed batch last _ post =>
      rw [TimedPost.after_flushBulk]
      exact h.afterFlush (Or.inl post) (Or.inr ⟨batch, rfl⟩)
    | @updated req rest last post =>
      refine h.afterFlush (Or.inr post) ?_
      by_cases hr : rest.isEmpty <;> simp [hr]
    | @updateFailed req rest last post =>
      refine h.afterFlush (Or.inr post) ?_
      by_cases hr : rest.isEmpty <;> simp [hr]
    | postStops =>
      exact ⟨h.since, h.lastFlush, rfl, fun batch hb => by cases hb⟩
    | restart => exact absurd rfl hrestart
    | _ => exact hsame rfl

theorem TimedPostRun.inv {now₀ : Instant} {evs : List TimedEvent}
    (h : TimedPostRun E T now₀ evs p) : p.Inv T :=
  Exec.run_keeps (fun h hi => hi.step h) h (.boot _ _ rfl)

/-! ## When what it holds is written -/

/-- The time by which the flush of what the loop holds is over. -/
def TimedPost.deadline (T : PostDelays) (p : TimedPost) : ℕ :=
  match p.sys.post with
  | .collecting _ => p.lastFlush + (BATCH_FLUSH_INTERVAL_MS + (BATCH_RECV_TIMEOUT_MS + T.late)) + T.flush
  | _ => p.since + T.flush

theorem TimedPost.deadline_collecting {batch : List EmailRequest}
    (h : p.sys.post = .collecting batch) : p.deadline T =
      p.lastFlush + (BATCH_FLUSH_INTERVAL_MS + (BATCH_RECV_TIMEOUT_MS + T.late)) + T.flush := by
  simp [TimedPost.deadline, h]

theorem TimedPost.deadline_flushing {batch : List EmailRequest} {last : Bool}
    (h : p.sys.post = .flushing batch last ∨ p.sys.post = .draining batch last) :
    p.deadline T = p.since + T.flush := by
  rcases h with h | h <;> simp [TimedPost.deadline, h]

theorem TimedPost.Inv.clock_le (h : p.Inv T) (hne : p.sys.post.batch ≠ []) :
    p.clock ≤ p.deadline T := by
  cases hpost : p.sys.post with
  | collecting batch =>
    rw [hpost] at hne
    have hyoung := h.young batch hpost hne
    have hlasts := (TimedPost.lasts_collecting hpost).1 h.lasts
    rw [TimedPost.deadline_collecting hpost]
    omega
  | flushing batch last =>
    rw [TimedPost.deadline_flushing (Or.inl hpost)]
    exact (TimedPost.lasts_flushing (Or.inl hpost)).1 h.lasts
  | draining rest last =>
    rw [TimedPost.deadline_flushing (Or.inr hpost)]
    exact (TimedPost.lasts_flushing (Or.inr hpost)).1 h.lasts
  | stopped => rw [hpost] at hne; exact absurd rfl hne

/-- A flush that begins in time is over in time. -/
theorem TimedPost.deadline_iterated {t : Sys}
    (hle : p.clock ≤ p.lastFlush + (BATCH_FLUSH_INTERVAL_MS + (BATCH_RECV_TIMEOUT_MS + T.late))) :
    ({ p with sys := t, since := p.clock } : TimedPost).deadline T ≤
      p.lastFlush + (BATCH_FLUSH_INTERVAL_MS + (BATCH_RECV_TIMEOUT_MS + T.late)) + T.flush := by
  unfold TimedPost.deadline
  split
  · exact le_rfl
  · exact Nat.add_le_add_right hle _

theorem TimedPost.deadline_afterFlush {t : Sys} {batch : List EmailRequest} {last : Bool}
    (hpost : p.sys.post = .flushing batch last ∨ p.sys.post = .draining batch last)
    (hnext : t.post = .afterFlush last ∨ ∃ rest, t.post = .draining rest last)
    (hne : t.post.batch ≠ []) : (p.afterFlush t).deadline T ≤ p.deadline T := by
  rcases hnext with hnext | ⟨rest, hnext⟩
  · rw [hnext] at hne
    cases last <;> exact absurd rfl hne
  · have hafter : p.afterFlush t = { p with sys := t } := by
      rw [TimedPost.afterFlush, hnext]
    rw [hafter, TimedPost.deadline_flushing hpost, TimedPost.deadline_flushing (Or.inr hnext)]

/-- What is held is not held for longer. -/
theorem TimedPost.Inv.deadline_le (h : p.Inv T) (hs : p.step E T e = some q)
    (hp : p.sys.post.batch ≠ []) (hq : q.sys.post.batch ≠ []) : q.deadline T ≤ p.deadline T := by
  rcases TimedPost.step_cases hs with
    ⟨ms, rfl, -, rfl⟩ | ⟨down, rfl, rfl⟩ | ⟨ev, t, rfl, hrestart, -, ht, rfl⟩
  · exact le_rfl
  · exact absurd rfl hq
  · have hst := Sys.Step.of_step ht
    rw [TimedPost.after_sys] at hq
    have hsame : t.post = p.sys.post → ({ p with sys := t } : TimedPost).deadline T ≤ p.deadline T :=
      fun hpost => by rw [TimedPost.deadline, TimedPost.deadline, ← hpost]
    have hiterated : ∀ {batch : List EmailRequest}, p.sys.post = .collecting batch →
        ({ p with sys := t, since := p.clock } : TimedPost).deadline T ≤ p.deadline T := by
      intro batch hpost
      rw [TimedPost.deadline_collecting hpost]
      refine TimedPost.deadline_iterated ?_
      rw [hpost] at hp
      have hyoung := h.young batch hpost hp
      have hlasts := (TimedPost.lasts_collecting hpost).1 h.lasts
      omega
    cases hst with
    | postRecv post => exact hiterated post
    | postTimeout post => exact hiterated post
    | postClosed post => exact hiterated post
    | flushed post => exact TimedPost.deadline_afterFlush (Or.inl post) (Or.inl rfl) hq
    | @flushFailed batch last _ post =>
      rw [TimedPost.after_flushBulk]
      exact TimedPost.deadline_afterFlush (Or.inl post) (Or.inr ⟨batch, rfl⟩) hq
    | @updated req rest last post =>
      refine TimedPost.deadline_afterFlush (Or.inr post) ?_ hq
      by_cases hr : rest.isEmpty <;> simp [hr]
    | @updateFailed req rest last post =>
      refine TimedPost.deadline_afterFlush (Or.inr post) ?_ hq
      by_cases hr : rest.isEmpty <;> simp [hr]
    | postStops => exact absurd rfl hq
    | restart => exact absurd rfl hrestart
    | _ => exact hsame rfl

/-! ## What is written -/

/-- The row of the request says what the request carries. -/
def Sys.Records (s : Sys) (req : EmailRequest) : Prop :=
  ∃ id row, req.rowid = some id ∧ s.db.requests.get? id = some row ∧ row.status = req.status ∧
    row.messageId = req.messageId ∧ row.error = req.error

section Records

variable {s t : Sys} {ev : Event} {req : EmailRequest}

theorem Sys.Inv.batch_row (h : s.Inv E) (hmem : req ∈ s.post.batch) : ∃ id row,
    req.rowid = some id ∧ s.db.requests.get? id = some row ∧ row.messageId = none ∧
      row.error = none := by
  obtain ⟨i, hi⟩ := (h.carried.batch req hmem).id
  have hid : req.rowid = some i.toInt := by rw [EmailRequest.rowid, hi, Option.map_some]
  obtain ⟨row, hrow, -, hm, he⟩ := h.rows.held_row h.book (mem_far_of_batch hmem hid)
  exact ⟨i.toInt, row, hid, hrow, hm, he⟩

/-- What leaves the batch is in its row, unless its own update failed or the loop ended. -/
theorem Sys.Step.records (hs : s.Step E ev t) (h : s.Inv E) (hmem : req ∈ s.post.batch)
    (hkeep : ev ≠ .restart ∧ ev ≠ .postStops)
    (hupdate : ∀ rest last, s.post = .draining (req :: rest) last → ev ≠ .flushOne false) :
    req ∈ t.post.batch ∨ t.Records req := by
  obtain ⟨id, row, hid, hrow, hm, he⟩ := h.batch_row hmem
  cases hs with
  | @postRecv elapsed batch r queue post queued =>
    rw [post] at hmem
    refine Or.inl ?_
    change req ∈ (PostProcessor.iterate batch elapsed (.received r)).batch
    rw [PostProcessor.iterate]
    split <;> exact List.mem_append_left _ hmem
  | @postTimeout elapsed batch post =>
    rw [post] at hmem
    refine Or.inl ?_
    change req ∈ (PostProcessor.iterate batch elapsed .timeout).batch
    rw [PostProcessor.iterate]
    split <;> exact hmem
  | @postClosed batch post =>
    rw [post] at hmem
    have hne : ¬ batch.isEmpty = true := by
      rw [List.isEmpty_iff]
      exact List.ne_nil_of_mem hmem
    refine Or.inl ?_
    change req ∈ (PostProcessor.iterate batch false .closed).batch
    rw [PostProcessor.iterate, if_neg hne]
    exact hmem
  | @flushed batch last r post written =>
    rw [post] at hmem
    have hn : (batch.filterMap (·.rowid)).Nodup := by
      have := nodup_batch h.book
      rwa [post] at this
    have hin : some id ∈ batch.map (·.rowid) := List.mem_map.2 ⟨req, hmem, hid⟩
    have hget := get?_bulkUpdateAll written id
    rw [hrow, Option.map_some, if_pos hin, bulkWritten_of_nodup hn hmem hid] at hget
    exact Or.inr ⟨id, _, hid, hget, rfl, by simp [hm], by simp [he]⟩
  | flushFailed _ post =>
    rw [post] at hmem
    exact Or.inl hmem
  | @updated r rest last post =>
    rw [post] at hmem
    rcases List.mem_cons.1 hmem with rfl | hrest
    · have hget := get?_update s.now req s.db.requests id
      rw [hrow, Option.map_some, if_pos hid] at hget
      exact Or.inr ⟨id, _, hid, hget, rfl, rfl, rfl⟩
    · refine Or.inl ?_
      rw [if_neg (by rw [List.isEmpty_iff]; exact List.ne_nil_of_mem hrest)]
      exact hrest
  | @updateFailed r rest last post =>
    rw [post] at hmem
    rcases List.mem_cons.1 hmem with rfl | hrest
    · exact absurd rfl (hupdate rest last post)
    · refine Or.inl ?_
      rw [if_neg (by rw [List.isEmpty_iff]; exact List.ne_nil_of_mem hrest)]
      exact hrest
  | postStops => exact absurd rfl hkeep.2
  | restart => exact absurd rfl hkeep.1
  | _ => exact Or.inl hmem

/-- Once written it stays. -/
theorem Sys.Records.run {evs : List Event} (hr : s.Records req) (h : s.Inv E)
    (hrun : Exec.run (Sys.step E) s evs = some t) (hfit : t.IdsFit)
    (hst : req.status = EmailMessageStatus.sent.asI32 ∨
      req.status = EmailMessageStatus.failed.asI32) : t.Records req := by
  obtain ⟨id, row, hid, hrow, hstatus, hm, he⟩ := hr
  have hphase : s.book.phase id = some (.finished ⟨req.status, req.messageId, req.error⟩) := by
    refine Sys.book_phase_eq_some.2 ⟨row, hrow, RequestRow.phase_eq_finished.2 ?_⟩
    rw [hstatus, hm, he]
    rcases hst with hst | hst <;> simp [hst, EmailMessageStatus.asI32]
  have hsame := terminal_of_run hrun hfit h (Or.inr ⟨_, hphase⟩)
  obtain ⟨row', hrow', hph⟩ := Sys.book_phase_eq_some.1 (hsame.trans hphase)
  obtain ⟨-, -, -, ho⟩ := RequestRow.phase_eq_finished.1 hph
  obtain ⟨h1, h2, h3⟩ := Outcome.mk.inj ho
  exact ⟨id, row', hid, hrow', h1.symm, h2.symm, h3.symm⟩

/-- SES has answered with a success or a failure. -/
theorem Answered.status_cases {returned : List (EmailRequest × Except SendEmailError String)}
    (h : Answered returned req) : req.status = EmailMessageStatus.sent.asI32 ∨
      req.status = EmailMessageStatus.failed.asI32 := by
  cases h with
  | @of req result _ _ =>
    cases result with
    | ok => exact Or.inl rfl
    | error => exact Or.inr rfl

end Records

/-! ## In time -/

theorem TimedPost.records {req : EmailRequest} (hs : p.step E T e = some q) (h : p.sys.Inv E)
    (hkeep : p.drops req e = false) (hmem : req ∈ p.sys.post.batch) :
    req ∈ q.sys.post.batch ∨ q.sys.Records req := by
  rcases TimedPost.step_cases hs with
    ⟨ms, rfl, -, rfl⟩ | ⟨down, rfl, rfl⟩ | ⟨ev, t, rfl, hrestart, -, ht, rfl⟩
  · exact Or.inl hmem
  · cases hkeep
  · rw [TimedPost.after_sys]
    refine (Sys.Step.of_step ht).records h hmem ⟨hrestart, ?_⟩ fun rest last hpost => ?_
    · rintro rfl
      cases hkeep
    · rintro rfl
      simp [TimedPost.drops, hpost] at hkeep

/-- Up to its deadline a request is in the batch, and from then on in its row. -/
theorem TimedPost.Inv.run {evs : List TimedEvent} {req : EmailRequest} (h : p.Inv T)
    (hsys : p.sys.Inv E) (hrun : Exec.run (TimedPost.step E T) p evs = some q)
    (hfit : q.sys.IdsFit)
    (hkeep : Exec.worked (TimedPost.step E T) (TimedPost.drops req) p evs = 0)
    (hmem : req ∈ p.sys.post.batch) :
    (req ∈ q.sys.post.batch ∧ q.Inv T ∧ q.deadline T ≤ p.deadline T) ∨ q.sys.Records req := by
  induction evs generalizing p with
  | nil =>
    obtain rfl := Exec.run_nil.1 hrun
    exact Or.inl ⟨hmem, h, le_rfl⟩
  | cons e evs ih =>
    obtain ⟨u, hu, hr⟩ := Exec.run_cons.1 hrun
    rw [Exec.worked, hu, Option.elim_some, Nat.add_eq_zero_iff, Bool.toNat_eq_zero] at hkeep
    have hrest := Exec.run_project TimedPost.step_project hr
    have hsysu : u.sys.Inv E :=
      hsys.run (TimedPost.step_project hu) ((grows_of_run hrest).seq.trans hfit)
    rcases TimedPost.records hu hsys hkeep.1 hmem with hmemu | hrec
    · refine (ih (h.step hu) hsysu hr hkeep.2 hmemu).imp_left fun hq => ⟨hq.1, hq.2.1, ?_⟩
      exact hq.2.2.trans (h.deadline_le hu (List.ne_nil_of_mem hmem) (List.ne_nil_of_mem hmemu))
    · exact Or.inr (hrec.run hsysu hrest hfit (hsys.carried.batch req hmem).status_cases)

theorem TimedPost.Inv.received {req : EmailRequest} {queue : List EmailRequest} {elapsed : Bool}
    (h : p.Inv T) (hqueue : p.sys.postChan.queue = req :: queue)
    (hs : p.step E T (.sys (.postRecv elapsed)) = some q) :
    req ∈ q.sys.post.batch ∧ q.deadline T ≤
      p.clock + (BATCH_FLUSH_INTERVAL_MS + (BATCH_RECV_TIMEOUT_MS + T.late)) + T.flush := by
  rcases TimedPost.step_cases hs with
    ⟨ms, he, -, -⟩ | ⟨down, he, -⟩ | ⟨ev, t, he, -, -, ht, rfl⟩
  · cases he
  · cases he
  · cases he
    cases Sys.Step.of_step ht with
    | @postRecv _ batch first rest post queued =>
      obtain ⟨rfl, rfl⟩ := List.cons.inj (queued.symm.trans hqueue)
      refine ⟨?_, ?_⟩
      · rw [TimedPost.after_sys]
        change first ∈ (PostProcessor.iterate batch elapsed (.received first)).batch
        rw [PostProcessor.iterate]
        split <;> exact List.mem_append_right _ (List.mem_singleton_self _)
      · have hlast := h.lastFlush.trans h.since
        unfold TimedPost.deadline
        split
        · exact Nat.add_le_add_right (Nat.add_le_add_right hlast _) _
        · exact Nat.add_le_add_right (Nat.le_add_right _ _) _

/-- What SES answered is in the row of its request 600 ms and one flush after the
post-processor received it, unless the process ended or that row's own update failed. -/
theorem answers_recorded {now₀ : Instant} {evs evs' : List TimedEvent} {p₀ : TimedPost}
    {req : EmailRequest} {queue : List EmailRequest} {elapsed : Bool}
    (hp : TimedPostRun E T now₀ evs p₀) (hqueue : p₀.sys.postChan.queue = req :: queue)
    (hrecv : p₀.step E T (.sys (.postRecv elapsed)) = some p)
    (hrun : Exec.run (TimedPost.step E T) p evs' = some q) (hfit : q.sys.IdsFit)
    (hkeep : Exec.worked (TimedPost.step E T) (TimedPost.drops req) p evs' = 0)
    (hlate : p₀.clock + (BATCH_FLUSH_INTERVAL_MS + (BATCH_RECV_TIMEOUT_MS + T.late)) + T.flush <
      q.clock) :
    ∃ id row, req.rowid = some id ∧ q.sys.db.requests.get? id = some row ∧
      row.status = req.status ∧ row.messageId = req.messageId ∧ row.error = req.error := by
  have hpolled : Exec.run (TimedPost.step E T) (TimedPost.boot (Sys.init now₀) 0) evs = some p₀ := hp
  have hproject : Exec.run (Sys.step E) (TimedPost.boot (Sys.init now₀) 0).sys
      (evs.filterMap TimedEvent.event) = some p₀.sys :=
    Exec.run_project TimedPost.step_project hpolled
  have hsys₀ : Run E now₀ (evs.filterMap TimedEvent.event) p₀.sys := hproject
  have hrest := Exec.run_project TimedPost.step_project hrun
  have hfitp : p.sys.IdsFit := (grows_of_run hrest).seq.trans hfit
  have hnext := TimedPost.step_project hrecv
  have hinv₀ := hsys₀.inv ((grows_of_run hnext).seq.trans hfitp)
  have hinv : p.sys.Inv E := hinv₀.run hnext hfitp
  have hloop₀ : p₀.Inv T := hp.inv
  have hloop := hloop₀.step hrecv
  obtain ⟨hmem, hdeadline⟩ := hloop₀.received hqueue hrecv
  rcases hloop.run hinv hrun hfit hkeep hmem with ⟨hmemq, hloopq, hle⟩ | hrec
  · have := hloopq.clock_le (List.ne_nil_of_mem hmemq)
    omega
  · exact hrec

/-- SES has answered for the first mail. -/
def sesAnswered : List TimedEvent :=
  handOffEvents.map .sys ++ [.sys .recv, .sys .spawnTask, .sys (.callSes 0),
    .sys (.sesReturn 0 [.ok (some "m-1")]), .sys (.postSend 0 true)]

def timedOut (elapsed : Bool) : List TimedEvent := [.elapse 100, .sys (.postTimeout elapsed)]

/-- The answer alone is flushed once the last flush is 500 ms ago. -/
def lonelyFlush : List TimedEvent :=
  timedOut false ++ timedOut false ++ timedOut false ++ timedOut false ++ timedOut true ++
    [.sys (.flushBulk true)] ++ timedOut false ++ timedOut false

theorem answers_recorded_sample : ∃ p₀ p q, TimedPostRun sampleEnv ⟨20, 10⟩ newYear sesAnswered p₀ ∧
    p₀.step sampleEnv ⟨20, 10⟩ (.sys (.postRecv false)) = some p ∧
    Exec.run (TimedPost.step sampleEnv ⟨20, 10⟩) p lonelyFlush = some q ∧
    ∃ id row, q.sys.db.requests.get? id = some row ∧ row.messageId = some "m-1" := by
  obtain ⟨p₀, hp₀, h⟩ := Exec.exists_of_any (TimedPost.step sampleEnv ⟨20, 10⟩)
    (TimedPost.boot (Sys.init newYear) 0) sesAnswered
    (fun p₀ => decide (p₀.clock = 0) &&
      decide (p₀.sys.postChan.queue.map (·.messageId) = [some "m-1"]) &&
      (p₀.step sampleEnv ⟨20, 10⟩ (.sys (.postRecv false))).any fun (p : TimedPost) =>
        (p₀.sys.postChan.queue.all fun req =>
          decide (Exec.worked (TimedPost.step sampleEnv ⟨20, 10⟩) (TimedPost.drops req) p lonelyFlush = 0)) &&
        (Exec.run (TimedPost.step sampleEnv ⟨20, 10⟩) p lonelyFlush).any fun (q : TimedPost) =>
          decide (q.clock = 700 ∧ q.sys.IdsFit)) (by decide)
  simp only [Bool.and_eq_true, decide_eq_true_eq, Option.any_eq_true, List.all_eq_true] at h
  obtain ⟨⟨hclock, hqueue⟩, p, hp, hkeep, q, hq, hlate, hfit⟩ := h
  obtain ⟨req, hreq, hmid⟩ := List.map_eq_singleton_iff.1 hqueue
  obtain ⟨id, row, -, hrow, -, hm, -⟩ := answers_recorded hp₀ hreq hp hq hfit
    (hkeep req (hreq ▸ List.mem_singleton_self req)) (by rw [hclock, hlate]; decide)
  exact ⟨p₀, p, q, hp₀, hp, hq, id, row, hrow, hm.trans hmid⟩

/-! ## How many statements it takes -/

/-- What has come in since the last flush. -/
def TimedPost.held (p : TimedPost) : ℕ :=
  match p.sys.post with
  | .collecting batch => batch.length
  | _ => 0

/-- The last time the loop flushed, or began to. -/
def TimedPost.mark (p : TimedPost) : ℕ :=
  match p.sys.post with
  | .collecting _ => p.lastFlush
  | _ => p.since

/-- Whether no other flush follows in this process. -/
def PostProcessor.ends : PostProcessor → Bool
  | .collecting _ => false
  | .flushing _ last => last
  | .draining _ last => last
  | .stopped => true

/-- The flushes of a stretch: of a full batch, of an old one, at the end of a process. -/
structure Flushes (p q : TimedPost) (received restarts down full timed closing : ℕ) : Prop where
  full : Receiver.BATCH_SIZE * full + q.held ≤ p.held + received
  timed : BATCH_FLUSH_INTERVAL_MS * timed + (p.mark + down) ≤ q.mark
  closing : closing + p.sys.post.ends.toNat ≤ q.sys.post.ends.toNat + restarts

theorem Flushes.trans {r : TimedPost} {m n d f t c m' n' d' f' t' c' : ℕ}
    (h : Flushes p q m n d f t c) (h' : Flushes q r m' n' d' f' t' c') :
    Flushes p r (m + m') (n + n') (d + d') (f + f') (t + t') (c + c') := by
  refine ⟨?_, ?_, ?_⟩
  · have := h.full; have := h'.full
    rw [Nat.mul_add]
    omega
  · have := h.timed; have := h'.timed
    rw [Nat.mul_add]
    omega
  · have := h.closing; have := h'.closing
    omega

/-- A step that begins no flush. -/
theorem Flushes.none {received restarts down : ℕ} (held : q.held ≤ p.held + received)
    (mark : p.mark + down ≤ q.mark)
    (ends : p.sys.post.ends.toNat ≤ q.sys.post.ends.toNat + restarts) :
    Flushes p q received restarts down 0 0 0 :=
  ⟨by omega, by omega, by omega⟩

theorem TimedPost.Inv.mark_le (h : p.Inv T) : p.mark ≤ p.since := by
  unfold TimedPost.mark
  split
  · exact h.lastFlush
  · exact le_rfl

theorem TimedPost.Inv.flushes_full {t : Sys} {batch : List EmailRequest} (h : p.Inv T)
    (hp : p.sys.post = .collecting batch) (hfull : batch.length + 1 ≥ Receiver.BATCH_SIZE)
    (hnext : ∃ batch', t.post = .flushing batch' false) :
    Flushes p { p with sys := t, since := p.clock } 1 0 0 1 0 0 := by
  obtain ⟨batch', ht⟩ := hnext
  refine ⟨?_, ?_, ?_⟩
  · simp only [TimedPost.held, hp, ht]
    omega
  · simp only [TimedPost.mark, hp, ht]
    have := h.lastFlush.trans h.since
    omega
  · simp [hp, ht, PostProcessor.ends]

theorem TimedPost.Inv.flushes_old {t : Sys} {batch : List EmailRequest} {received : ℕ}
    (h : p.Inv T) (hp : p.sys.post = .collecting batch) (hold : p.elapsed = true)
    (hnext : ∃ batch', t.post = .flushing batch' false) :
    Flushes p { p with sys := t, since := p.clock } received 0 0 0 1 0 := by
  obtain ⟨batch', ht⟩ := hnext
  have hage : BATCH_FLUSH_INTERVAL_MS ≤ p.clock - p.lastFlush := of_decide_eq_true hold
  refine ⟨?_, ?_, ?_⟩
  · simp only [TimedPost.held, ht]
    omega
  · simp only [TimedPost.mark, hp, ht]
    have := h.lastFlush.trans h.since
    omega
  · simp [hp, ht, PostProcessor.ends]

theorem TimedPost.Inv.flushes_afterFlush {t : Sys} {batch : List EmailRequest} {last : Bool}
    (h : p.Inv T)
    (hpost : p.sys.post = .flushing batch last ∨ p.sys.post = .draining batch last)
    (hnext : t.post = .afterFlush last ∨ ∃ rest, t.post = .draining rest last) :
    Flushes p (p.afterFlush t) 0 0 0 0 0 0 := by
  have hmark : p.mark = p.since := by
    rcases hpost with hpost | hpost <;> simp [TimedPost.mark, hpost]
  have hends : p.sys.post.ends = last := by
    rcases hpost with hpost | hpost <;> simp [PostProcessor.ends, hpost]
  rcases hnext with hnext | ⟨rest, hnext⟩
  · cases last with
    | true =>
      have hafter : p.afterFlush t = { p with sys := t } := by
        rw [TimedPost.afterFlush, hnext]
        rfl
      rw [hafter]
      refine .none ?_ ?_ ?_
      · simp [TimedPost.held, hnext, PostProcessor.afterFlush]
      · rw [hmark]
        simp [TimedPost.mark, hnext, PostProcessor.afterFlush]
      · rw [hends]
        simp [hnext, PostProcessor.afterFlush, PostProcessor.ends]
    | false =>
      have hafter : p.afterFlush t = { p with sys := t, since := p.clock, lastFlush := p.clock } := by
        rw [TimedPost.afterFlush, hnext]
        rfl
      rw [hafter]
      refine .none ?_ ?_ ?_
      · simp [TimedPost.held, hnext, PostProcessor.afterFlush]
      · rw [hmark]
        simpa [TimedPost.mark, hnext, PostProcessor.afterFlush] using h.since
      · simp [hends]
  · have hafter : p.afterFlush t = { p with sys := t } := by
      rw [TimedPost.afterFlush, hnext]
    rw [hafter]
    refine .none ?_ ?_ ?_
    · simp [TimedPost.held, hnext]
    · rw [hmark]
      simp [TimedPost.mark, hnext]
    · rw [hends]
      simp [hnext, PostProcessor.ends]

theorem TimedPost.Inv.flushes_step (h : p.Inv T) (hs : p.step E T e = some q) :
    ∃ f d c, Flushes p q e.receives.toNat e.restarts.toNat e.downtime f d c ∧
      (p.flushes e).toNat = f + d + c := by
  rcases TimedPost.step_cases hs with
    ⟨ms, rfl, -, rfl⟩ | ⟨down, rfl, rfl⟩ | ⟨ev, t, rfl, hrestart, ha, ht, rfl⟩
  · exact ⟨0, 0, 0, .none le_rfl le_rfl le_rfl, rfl⟩
  · have hmark := Nat.add_le_add_right (h.mark_le.trans h.since) down
    exact ⟨0, 0, 0, .none (Nat.zero_le _) hmark ((Bool.toNat_le _).trans (Nat.le_add_left _ _)), rfl⟩
  · have hst := Sys.Step.of_step ht
    have hsame : t.post = p.sys.post → Flushes p { p with sys := t } 0 0 0 0 0 0 := by
      intro hpost
      refine .none ?_ ?_ ?_
      · rw [TimedPost.held, TimedPost.held, ← hpost]
        exact le_rfl
      · rw [Nat.add_zero, TimedPost.mark, TimedPost.mark, ← hpost]
      · exact (congrArg (·.ends.toNat) hpost.symm).le
    cases hst with
    | @postRecv elapsed batch req queue post queued =>
      obtain rfl : elapsed = p.elapsed := of_decide_eq_true ha
      by_cases hfull : batch.length + 1 ≥ Receiver.BATCH_SIZE
      · refine ⟨1, 0, 0, h.flushes_full post hfull ⟨batch ++ [req], ?_⟩, ?_⟩
        · simp [PostProcessor.iterate, hfull]
        · simp [TimedPost.flushes, post, PostProcessor.batch, hfull]
      · cases hold : p.elapsed with
        | true =>
          refine ⟨0, 1, 0, h.flushes_old post hold ⟨batch ++ [req], ?_⟩, ?_⟩
          · simp [PostProcessor.iterate]
          · simp [TimedPost.flushes]
        | false =>
          refine ⟨0, 0, 0, .none ?_ ?_ ?_, ?_⟩
          · simp [TimedPost.held, TimedPost.after, post, PostProcessor.iterate, hfull,
              TimedEvent.receives]
          · simp [TimedPost.mark, TimedPost.after, TimedEvent.downtime, post, PostProcessor.iterate,
              hfull]
          · simp [post, PostProcessor.iterate, hfull, PostProcessor.ends]
          · simp [TimedPost.flushes, post, PostProcessor.batch, hfull]
    | @postTimeout elapsed batch post =>
      obtain rfl : elapsed = p.elapsed := of_decide_eq_true (Bool.and_eq_true_iff.1 ha).1
      by_cases hold : (!batch.isEmpty && p.elapsed) = true
      · refine ⟨0, 1, 0, h.flushes_old post (Bool.and_eq_true_iff.1 hold).2 ⟨batch, ?_⟩, ?_⟩
        · rw [PostProcessor.iterate, if_pos hold]
        · rw [TimedPost.flushes, post, PostProcessor.batch, hold]
          rfl
      · refine ⟨0, 0, 0, .none ?_ ?_ ?_, ?_⟩
        · simp [TimedPost.held, TimedPost.after, post, PostProcessor.iterate, hold]
        · simp [TimedPost.mark, TimedPost.after, TimedEvent.downtime, post, PostProcessor.iterate, hold]
        · simp [post, PostProcessor.iterate, hold, PostProcessor.ends]
        · rw [TimedPost.flushes, post, PostProcessor.batch, Bool.eq_false_iff.2 hold]
          rfl
    | @postClosed batch post =>
      have hmark := h.lastFlush.trans h.since
      by_cases hemp : batch.isEmpty = true
      · refine ⟨0, 0, 0, .none ?_ ?_ ?_, ?_⟩
        · simp [TimedPost.held, TimedPost.after, PostProcessor.iterate, hemp]
        · simpa [TimedPost.mark, TimedPost.after, TimedEvent.downtime, post, PostProcessor.iterate,
            hemp] using hmark
        · simp [post, PostProcessor.ends]
        · simp [TimedPost.flushes, post, PostProcessor.batch, hemp]
      · refine ⟨0, 0, 1, ⟨?_, ?_, ?_⟩, ?_⟩
        · simp [TimedPost.held, TimedPost.after, PostProcessor.iterate, hemp]
        · simpa [TimedPost.mark, TimedPost.after, TimedEvent.downtime, post, PostProcessor.iterate,
            hemp] using hmark
        · simp [post, PostProcessor.iterate, hemp, PostProcessor.ends]
        · simp [TimedPost.flushes, post, PostProcessor.batch, hemp]
    | flushed post => exact ⟨0, 0, 0, h.flushes_afterFlush (Or.inl post) (Or.inl rfl), rfl⟩
    | @flushFailed batch last _ post =>
      rw [TimedPost.after_flushBulk]
      exact ⟨0, 0, 0, h.flushes_afterFlush (Or.inl post) (Or.inr ⟨batch, rfl⟩), rfl⟩
    | @updated req rest last post =>
      refine ⟨0, 0, 0, h.flushes_afterFlush (Or.inr post) ?_, rfl⟩
      by_cases hr : rest.isEmpty <;> simp [hr]
    | @updateFailed req rest last post =>
      refine ⟨0, 0, 0, h.flushes_afterFlush (Or.inr post) ?_, rfl⟩
      by_cases hr : rest.isEmpty <;> simp [hr]
    | postStops => exact ⟨0, 0, 0, .none (Nat.zero_le _) h.mark_le (Bool.toNat_le _), rfl⟩
    | restart => exact absurd rfl hrestart
    | _ => exact ⟨0, 0, 0, hsame rfl, rfl⟩

theorem TimedPost.Inv.flushes_run {evs : List TimedEvent} (h : p.Inv T)
    (hrun : Exec.run (TimedPost.step E T) p evs = some q) :
    ∃ f d c, Flushes p q (evs.countP TimedEvent.receives) (evs.countP TimedEvent.restarts)
        (evs.map TimedEvent.downtime).sum f d c ∧
      Exec.worked (TimedPost.step E T) TimedPost.flushes p evs = f + d + c := by
  induction evs generalizing p with
  | nil =>
    obtain rfl := Exec.run_nil.1 hrun
    exact ⟨0, 0, 0, .none le_rfl le_rfl le_rfl, rfl⟩
  | cons e evs ih =>
    obtain ⟨u, hu, hr⟩ := Exec.run_cons.1 hrun
    obtain ⟨f, d, c, hstep, hcount⟩ := h.flushes_step hu
    obtain ⟨f', d', c', hrest, hcount'⟩ := ih (h.step hu) hr
    refine ⟨f + f', d + d', c + c', ?_, ?_⟩
    · rw [Exec.countP_cons_toNat, Exec.countP_cons_toNat, List.map_cons, List.sum_cons]
      exact hstep.trans hrest
    · rw [Exec.worked, hu, Option.elim_some, hcount, hcount']
      omega

/-- Flushes are few: one for each 100 answers, one for each 500 ms that a process was
up, and one for each process that came to its end. -/
theorem flushes_few {now₀ : Instant} {evs : List TimedEvent} (hp : TimedPostRun E T now₀ evs p) :
    Exec.worked (TimedPost.step E T) TimedPost.flushes (TimedPost.boot (Sys.init now₀) 0) evs ≤
      evs.countP TimedEvent.receives / Receiver.BATCH_SIZE +
        (p.clock - (evs.map TimedEvent.downtime).sum) / BATCH_FLUSH_INTERVAL_MS +
        (evs.countP TimedEvent.restarts + 1) := by
  have hboot : (TimedPost.boot (Sys.init now₀) 0).Inv T := .boot _ _ rfl
  have hloop : p.Inv T := hp.inv
  obtain ⟨f, d, c, ⟨hfull, htimed, hclosing⟩, hcount⟩ := hboot.flushes_run hp
  have hf : f ≤ evs.countP TimedEvent.receives / Receiver.BATCH_SIZE := by
    rw [Nat.le_div_iff_mul_le (by decide), Nat.mul_comm]
    exact (Nat.le_add_right _ _).trans (hfull.trans_eq (Nat.zero_add _))
  have hd : d ≤ (p.clock - (evs.map TimedEvent.downtime).sum) / BATCH_FLUSH_INTERVAL_MS := by
    rw [Nat.le_div_iff_mul_le (by decide), Nat.mul_comm]
    have := htimed.trans (hloop.mark_le.trans hloop.since)
    omega
  have hc : c ≤ evs.countP TimedEvent.restarts + 1 := by
    have := Bool.toNat_le p.sys.post.ends
    omega
  rw [hcount]
  omega

theorem flushes_few_sample : ∃ p, TimedPostRun sampleEnv ⟨20, 10⟩ newYear
      (sesAnswered ++ .sys (.postRecv false) :: lonelyFlush) p ∧
    Exec.worked (TimedPost.step sampleEnv ⟨20, 10⟩) TimedPost.flushes
      (TimedPost.boot (Sys.init newYear) 0) (sesAnswered ++ .sys (.postRecv false) :: lonelyFlush) ≤
      1 / 100 + 700 / 500 + (0 + 1) := by
  obtain ⟨p, hp, h⟩ := Exec.exists_of_any (TimedPost.step sampleEnv ⟨20, 10⟩)
    (TimedPost.boot (Sys.init newYear) 0) (sesAnswered ++ .sys (.postRecv false) :: lonelyFlush)
    (fun p => decide (p.clock = 700)) (by decide)
  have hclock : p.clock = 700 := of_decide_eq_true h
  have hle := flushes_few hp
  rw [hclock] at hle
  exact ⟨p, hp, hle⟩

end Ses
