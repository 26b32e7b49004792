import SesSender.Proofs.Attribution
import SesSender.Proofs.SentCount

/-! What the tables remember. No row is ever deleted, a request row changes only in
what its delivery writes, and each change leaves its time. -/

namespace Ses

open Calendar

variable {E : Env} {s t : Sys} {e : Event} {now₀ : Instant} {evs : List Event}

/-! ## What becomes of a row -/

/-- What can become of a row while the clock goes from `a` to `b`. -/
structure RowKept (a b : Int) (row row' : RequestRow) : Prop where
  topicId : row'.topicId = row.topicId
  contentId : row'.contentId = row.contentId
  email : row'.email = row.email
  scheduledAt : row'.scheduledAt = row.scheduledAt
  createdAt : row'.createdAt = row.createdAt
  changed : row' = row ∨
    ∃ time : Instant, row'.updatedAt = time.stamp ∧ a ≤ time.secs ∧ time.secs ≤ b

theorem RowKept.refl (a b : Int) (row : RequestRow) : RowKept a b row row :=
  ⟨rfl, rfl, rfl, rfl, rfl, Or.inl rfl⟩

theorem RowKept.trans {a b c : Int} {row row' row'' : RequestRow} (h : RowKept a b row row')
    (h' : RowKept b c row' row'') (hab : a ≤ b) (hbc : b ≤ c) : RowKept a c row row'' := by
  refine ⟨h'.topicId.trans h.topicId, h'.contentId.trans h.contentId, h'.email.trans h.email,
    h'.scheduledAt.trans h.scheduledAt, h'.createdAt.trans h.createdAt, ?_⟩
  rcases h'.changed with rfl | ⟨time, hat, hfrom, hto⟩
  · rcases h.changed with rfl | ⟨time, hat, hfrom, hto⟩
    · exact Or.inl rfl
    · exact Or.inr ⟨time, hat, hfrom, hto.trans hbc⟩
  · exact Or.inr ⟨time, hat, hab.trans hfrom, hto⟩

/-- A statement that writes delivery columns also writes the time. -/
theorem RowKept.written (now : Instant) (row : RequestRow) (status : Int)
    (messageId error : Option String) : RowKept now.secs now.secs row
      { row with status, messageId, error, updatedAt := now.stamp } :=
  ⟨rfl, rfl, rfl, rfl, rfl, Or.inr ⟨now, rfl, le_rfl, le_rfl⟩⟩

theorem RowKept.ite {a b : Int} {p : Prop} [Decidable p] {row row' : RequestRow}
    (h : RowKept a b row row') : RowKept a b row (if p then row' else row) := by
  split
  · exact h
  · exact RowKept.refl a b row

theorem RequestsChange.kept {r : Table RequestRow} (h : RequestsChange E s r) {id : Int}
    {row : RequestRow} (hrow : s.db.requests.get? id = some row) :
    ∃ row', r.get? id = some row' ∧ RowKept s.now.secs s.now.secs row row' := by
  cases h with
  | same => exact ⟨row, hrow, .refl _ _ row⟩
  | insert =>
    exact ⟨row, (Table.get?_append_old (Table.le_seq_of_get? hrow)).trans hrow, .refl _ _ row⟩
  | rollback =>
    rw [get?_rollbackToCreated, hrow]
    exact ⟨_, rfl, .ite (.written s.now row _ _ _)⟩
  | claim =>
    rw [get?_claim, hrow]
    exact ⟨_, rfl, .ite (.written s.now row _ _ _)⟩
  | stop =>
    rw [get?_stopTopic, hrow]
    exact ⟨_, rfl, .ite (.written s.now row _ _ _)⟩
  | bulk _ written =>
    rw [get?_bulkUpdateAll written, hrow]
    exact ⟨_, rfl, .ite (.written s.now row _ _ _)⟩
  | update =>
    rw [get?_update, hrow]
    exact ⟨_, rfl, .ite (.written s.now row _ _ _)⟩

/-- What the three tables keep from one state to a later one. -/
structure Keeps (s t : Sys) : Prop where
  requests : ∀ id row, s.db.requests.get? id = some row →
    ∃ row', t.db.requests.get? id = some row' ∧ RowKept s.now.secs t.now.secs row row'
  contents : ∀ id c, s.db.contents.get? id = some c → t.db.contents.get? id = some c
  results : ∀ id r, s.db.results.get? id = some r → t.db.results.get? id = some r

theorem Sys.Step.results_kept (hs : s.Step E e t) {id : Int} {r : ResultRow}
    (hr : s.db.results.get? id = some r) : t.db.results.get? id = some r := by
  cases hs with
  | resultSaved pending save =>
    obtain rfl := EmailResult.save_eq save
    exact (Table.get?_append_old (Table.le_seq_of_get? hr)).trans hr
  | _ => exact hr

theorem Sys.Step.keeps (hs : s.Step E e t) : Keeps s t where
  requests id row hrow := by
    obtain ⟨row', hrow', hkept⟩ := hs.requests.kept hrow
    exact ⟨row', hrow', hkept.trans (.refl _ _ row') le_rfl hs.grows.now⟩
  contents := hs.grows.contents
  results _ _ hr := hs.results_kept hr

theorem Keeps.refl (s : Sys) : Keeps s s :=
  ⟨fun _ row hrow => ⟨row, hrow, .refl _ _ row⟩, fun _ _ h => h, fun _ _ h => h⟩

theorem Keeps.trans {u : Sys} (h : Keeps s t) (h' : Keeps t u) (hst : s.now.secs ≤ t.now.secs)
    (htu : t.now.secs ≤ u.now.secs) : Keeps s u := by
  refine ⟨fun id row hrow => ?_, fun id c hc => h'.contents id c (h.contents id c hc),
    fun id r hr => h'.results id r (h.results id r hr)⟩
  obtain ⟨row', hrow', hk⟩ := h.requests id row hrow
  obtain ⟨row'', hrow'', hk'⟩ := h'.requests id row' hrow'
  exact ⟨row'', hrow'', hk.trans hk' hst htu⟩

theorem keeps_of_run (hrun : Exec.run (Sys.step E) s evs = some t) : Keeps s t := by
  have hall : s.now.secs ≤ t.now.secs ∧ Keeps s t :=
    Exec.run_rel (R := fun s t => s.now.secs ≤ t.now.secs ∧ Keeps s t)
      (fun s => ⟨le_rfl, .refl s⟩)
      (fun h h' => ⟨h.1.trans h'.1, h.2.trans h'.2 h.1 h'.1⟩)
      (fun h => ⟨(Sys.Step.of_step h).grows.now, (Sys.Step.of_step h).keeps⟩) hrun
  exact hall.2

/-- Between any two states of a run: every row is still there, contents and results
as they were, and of a request row only the delivery columns may differ. If any
does, `updated_at` is a time the clock showed in between. -/
theorem rows_kept (hrun : Exec.run (Sys.step E) s evs = some t) :
    (∀ id row, s.db.requests.get? id = some row →
      ∃ row', t.db.requests.get? id = some row' ∧ RowKept s.now.secs t.now.secs row row') ∧
    (∀ id c, s.db.contents.get? id = some c → t.db.contents.get? id = some c) ∧
    ∀ id r, s.db.results.get? id = some r → t.db.results.get? id = some r := by
  have hk := keeps_of_run hrun
  exact ⟨hk.requests, hk.contents, hk.results⟩

theorem rows_kept_sample : ∃ s t row row', Run sampleEnv newYear handOffEvents s ∧
    Exec.run (Sys.step sampleEnv) s (answerEvents ++ flushEvents) = some t ∧
    s.db.requests.get? 1 = some row ∧ t.db.requests.get? 1 = some row' ∧ row' ≠ row ∧
    RowKept s.now.secs t.now.secs row row' := by
  obtain ⟨s, hs, h⟩ := Exec.exists_of_any (Sys.step sampleEnv) (Sys.init newYear) handOffEvents
    (fun s => (Exec.run (Sys.step sampleEnv) s (answerEvents ++ flushEvents)).any fun t : Sys =>
      (s.db.requests.get? 1).isSome &&
        decide (t.db.requests.get? 1 ≠ s.db.requests.get? 1)) (by decide)
  obtain ⟨t, ht, h⟩ := (Option.any_eq_true _ _).1 h
  rw [Bool.and_eq_true, decide_eq_true_eq, Option.isSome_iff_exists] at h
  obtain ⟨⟨row, hrow⟩, hne⟩ := h
  obtain ⟨row', hrow', hkept⟩ := (rows_kept ht).1 1 row hrow
  refine ⟨s, t, row, row', hs, ht, hrow, hrow', fun heq => hne ?_, hkept⟩
  rw [hrow', hrow, heq]

/-! ## The times of a row -/

/-- Created, updated, read: in this order. -/
def TimesInOrder (now : Instant) (row : RequestRow) : Prop :=
  ∃ created updated : Instant, row.createdAt = created.stamp ∧ row.updatedAt = updated.stamp ∧
    created.secs ≤ updated.secs ∧ updated.secs ≤ now.secs

theorem TimesInOrder.mono {now now' : Instant} {row : RequestRow} (h : TimesInOrder now row)
    (hle : now.secs ≤ now'.secs) : TimesInOrder now' row := by
  obtain ⟨created, updated, hc, hu, hcu, hnow⟩ := h
  exact ⟨created, updated, hc, hu, hcu, hnow.trans hle⟩

theorem TimesInOrder.kept {now : Instant} {row row' : RequestRow} (h : TimesInOrder now row)
    (hkept : RowKept now.secs now.secs row row') : TimesInOrder now row' := by
  rcases hkept.changed with rfl | ⟨time, hat, hfrom, hto⟩
  · exact h
  · obtain ⟨created, updated, hc, -, hcu, hnow⟩ := h
    exact ⟨created, time, hkept.createdAt.trans hc, hat, hcu.trans (hnow.trans hfrom), hto⟩

/-- A result is no older than its request. -/
def ResultInOrder (s : Sys) (r : ResultRow) : Prop :=
  ∃ (row : RequestRow) (created time : Instant), s.db.requests.get? r.requestId = some row ∧
    row.createdAt = created.stamp ∧ r.createdAt = time.stamp ∧ created.secs ≤ time.secs ∧
    time.secs ≤ s.now.secs

structure Timed (E : Env) (s : Sys) : Prop where
  requests : ∀ id row, s.db.requests.get? id = some row → TimesInOrder s.now row
  results : E.foreignKeys = true → ∀ i r, s.db.results.get? i = some r → ResultInOrder s r

/-- A row that a step adds has one time in both columns. -/
theorem Sys.step_new (h : s.step E e = some t) {id : Int} {row : RequestRow}
    (hnone : s.db.requests.get? id = none) (hrow : t.db.requests.get? id = some row) :
    TimesInOrder s.now row := by
  have hsave : ∀ {i : ℕ} {clock : ℕ → Instant} {F : TxFaults},
      s.saveRequests E i clock F = some t → TimesInOrder s.now row := by
    intro i clock F h
    rcases Sys.saveRequests_clock h with hsame | ⟨payload, contents, saved, hclock, hsave⟩
    · rw [hsame, hnone] at hrow
      cases hrow
    · rcases EmailRequest.saveBatch_new hsave hrow with hold | ⟨-, req, -, k, hk, hto⟩
      · rw [hnone] at hold
        cases hold
      · obtain ⟨topicId, contentId, -, -, rfl⟩ := EmailRequest.toRow_eq_some.1 hto
        exact ⟨clock k, clock k, rfl, rfl, le_rfl, hclock k hk.le⟩
  cases Sys.Step.of_step h with
  | scheduledSaved => exact hsave h
  | immediateSaved => exact hsave h
  | rolledBack => rw [get?_rollbackToCreated, hnone] at hrow; cases hrow
  | claimUnread => rw [get?_claim, hnone] at hrow; cases hrow
  | claimed => rw [get?_claim, hnone] at hrow; cases hrow
  | stopTopic => rw [get?_stopTopic, hnone] at hrow; cases hrow
  | flushed _ written => rw [get?_bulkUpdateAll written, hnone] at hrow; cases hrow
  | updated => rw [get?_update, hnone] at hrow; cases hrow
  | _ => exact absurd (hnone.symm.trans hrow) nofun

/-- A saved result finds its request, with foreign keys on. -/
theorem EmailResult.save_request {now : Instant} {requests : Table RequestRow} {r : EmailResult}
    {rt rt' : Table ResultRow} (h : r.save E now requests rt = some rt')
    (hfk : E.foreignKeys = true) : ∃ row, requests.get? r.requestId.toInt = some row := by
  unfold EmailResult.save at h
  split at h
  · cases h
  · rename_i hnot
    rw [hfk, Bool.true_and, Option.isNone_iff_eq_none] at hnot
    exact Option.ne_none_iff_exists'.1 hnot

theorem ResultInOrder.keeps {r : ResultRow} (h : ResultInOrder s r) (hk : Keeps s t)
    (hnow : s.now.secs ≤ t.now.secs) : ResultInOrder t r := by
  obtain ⟨row, created, time, hrow, hc, ht, hle, hto⟩ := h
  obtain ⟨row', hrow', hkept⟩ := hk.requests _ row hrow
  exact ⟨row', created, time, hrow', hkept.createdAt.trans hc, ht, hle, hto.trans hnow⟩

theorem Timed.step (ht : Timed E s) (h : s.step E e = some t) : Timed E t := by
  have hs := Sys.Step.of_step h
  have hnow := hs.grows.now
  refine ⟨fun id row' hrow' => ?_, fun hfk i r hr => ?_⟩
  · cases hrow : s.db.requests.get? id with
    | none => exact (Sys.step_new h hrow hrow').mono hnow
    | some row =>
      obtain ⟨row'', hrow'', hkept⟩ := hs.requests.kept hrow
      obtain rfl := Option.some.inj (hrow''.symm.trans hrow')
      exact ((ht.requests id row hrow).kept hkept).mono hnow
  · have hold : s.db.results.get? i = some r → ResultInOrder t r :=
      fun hr => (ht.results hfk i r hr).keeps hs.keeps hnow
    cases hs with
    | resultSaved pending save =>
      obtain rfl := EmailResult.save_eq save
      rcases Table.get?_append_cases hr with hr | ⟨j, -, hj⟩
      · exact hold hr
      · cases j with
        | zero =>
          obtain rfl := Option.some.inj hj
          obtain ⟨row, hrow⟩ := EmailResult.save_request save hfk
          obtain ⟨created, updated, hc, -, hcu, hle⟩ := ht.requests _ row hrow
          exact ⟨row, created, s.now, hrow, hc, rfl, hcu.trans hle, le_rfl⟩
        | succ j => cases hj
    | _ => exact hold hr

/-- In every state reached, a row was created before it was last written, a result
after its request, and nothing is from the future. -/
theorem times_in_order (hrun : Run E now₀ evs s) :
    (∀ id row, s.db.requests.get? id = some row → TimesInOrder s.now row) ∧
    (E.foreignKeys = true → ∀ i r, s.db.results.get? i = some r → ResultInOrder s r) := by
  have hinit : Timed E (Sys.init now₀) := ⟨nofun, fun _ => nofun⟩
  have ht : Timed E s := Exec.run_keeps (fun h ht => ht.step h) hrun hinit
  exact ⟨ht.requests, ht.results⟩

theorem times_in_order_sample : ∃ s r, Run sampleEnv newYear (handOffEvents ++ answerEvents ++
      flushEvents ++ [.getOpen "request_id=1", .saveResult 0 true]) s ∧
    s.db.results.get? 1 = some r ∧ ResultInOrder s r := by
  obtain ⟨s, hs, h⟩ := Exec.exists_of_any (Sys.step sampleEnv) (Sys.init newYear)
    (handOffEvents ++ answerEvents ++ flushEvents ++
      [.getOpen "request_id=1", .saveResult 0 true])
    (fun s => (s.db.results.get? 1).isSome) (by decide)
  obtain ⟨r, hr⟩ := Option.isSome_iff_exists.1 h
  exact ⟨s, r, hs, hr, (times_in_order hs).2 rfl 1 r hr⟩

end Ses
