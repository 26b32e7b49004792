import SesSender.Proofs.LifeCycle

/-! What a stop leaves behind. The rows outlive the process, the hands do not,
and nothing ever looks for a processed row that nobody holds. -/

namespace Ses

open Calendar

variable {E : Env} {s t : Sys} {e : Event} {now₀ : Instant} {evs : List Event}

/-- A processed row nobody holds: nothing is ever done about it any more. -/
theorem stranded_of_run (h : s.Inv E) (hrun : Exec.run (Sys.step E) s evs = some t)
    (hfit : t.IdsFit) {id : Int} (hs : Ledger.Stranded s.book id)
    (hcalled : ∀ call ∈ s.hist.called, call.1.rowid ≠ some id) :
    Ledger.Stranded t.book id ∧ ∀ call ∈ t.hist.called, call.1.rowid ≠ some id := by
  induction evs generalizing s with
  | nil =>
    obtain rfl := Exec.run_nil.1 hrun
    exact ⟨hs, hcalled⟩
  | cons e evs ih =>
    obtain ⟨u, hu, hrest⟩ := Exec.run_cons.1 hrun
    have hstep := Sys.Step.of_step hu
    have hufit : u.IdsFit := (grows_of_run hrest).seq.trans hfit
    obtain ⟨m, hm, -⟩ := hstep.refines h.carried h.rows h.book hufit
    refine ih (h.step hstep hufit) hrest (hm.stranded hs).1 fun call hcall => ?_
    rcases hstep.called_held h.carried call hcall with hold | ⟨id', hid', hheld⟩
    · exact hcalled call hold
    · rw [hid']
      rintro ⟨rfl⟩
      exact hs.2 (mem_heldIds.1 hheld)

/-- Only what SES was called for ends up sent or failed. -/
theorem Sys.Inv.called_of_finished (h : s.Inv E) {id : Int} {row : RequestRow}
    (hrow : s.db.requests.get? id = some row)
    (hno : ∀ call ∈ s.hist.called, call.1.rowid ≠ some id) :
    row.status = EmailMessageStatus.created.asI32 ∨
      row.status = EmailMessageStatus.processed.asI32 ∨
      row.status = EmailMessageStatus.stopped.asI32 := by
  have hreturned : ∀ answer ∈ s.hist.returned, answer.1.rowid ≠ some id := by
    intro answer hans
    obtain ⟨call, hcall, heq⟩ := List.mem_map.1 (h.carried.returned answer hans)
    rw [← heq]
    exact hno call hcall
  cases h.rows.recorded id row hrow with
  | blank status => exact status
  | sent mem rowid => exact absurd rowid (hreturned _ mem)
  | failed mem rowid => exact absurd rowid (hreturned _ mem)

theorem heldIds_dropHandler {i : ℕ} {h₀ : Handler} (hi : s.handlers[i]? = some h₀) :
    s.heldIds.Perm (h₀.ids ++ (s.setHandler i .dropped).heldIds) := by
  obtain ⟨N, hN, hset⟩ := near_setHandler hi
  rw [← Multiset.coe_eq_coe]
  have hdropped := hset .dropped
  simp only [Sys.heldIds, ← Multiset.coe_add] at *
  rw [hN, hdropped]
  change _ = _ + (0 + N + (s.farIds : Multiset Int))
  rw [zero_add, add_assoc]

/-- A stop, or a dropped call, leaves the table as it is and takes away what was
held. A row SES was not called for is then created, stopped, held by what goes
on, or processed and abandoned: no later run ever takes it up. -/
theorem stop_abandons_held (hrun : Run E now₀ evs s) (hfit : s.IdsFit)
    (he : e = .restart ∨ ∃ i, e = .dropHandler i) (hstep : s.step E e = some t) :
    t.db = s.db ∧
    (e = .restart → t.heldIds = []) ∧
    (∀ i, e = .dropHandler i → ∃ h, s.handlers[i]? = some h ∧ s.heldIds.Perm (h.ids ++ t.heldIds)) ∧
    ∀ id row, t.db.requests.get? id = some row →
      (∀ call ∈ t.hist.called, call.1.rowid ≠ some id) →
      row.status = EmailMessageStatus.created.asI32 ∨
      row.status = EmailMessageStatus.stopped.asI32 ∨
      (row.status = EmailMessageStatus.processed.asI32 ∧ id ∈ t.heldIds) ∨
      (row.status = EmailMessageStatus.processed.asI32 ∧
        ∀ evs' u, Exec.run (Sys.step E) t evs' = some u → u.IdsFit →
          (∃ row', u.db.requests.get? id = some row' ∧
            row'.status = EmailMessageStatus.processed.asI32) ∧
          id ∉ u.heldIds ∧ ∀ call ∈ u.hist.called, call.1.rowid ≠ some id) := by
  have hs := Sys.Step.of_step hstep
  have hdb : t.db = s.db := by
    rcases he with rfl | ⟨i, rfl⟩ <;> cases hs <;> rfl
  have htfit : t.IdsFit := by unfold Sys.IdsFit; rw [hdb]; exact hfit
  have ht : t.Inv E := (hrun.inv hfit).step hs htfit
  refine ⟨hdb, ?_, ?_, fun id row hrow hno => ?_⟩
  · rintro rfl
    cases hs
    rfl
  · rintro i rfl
    cases hs with
    | dropHandler handler => exact ⟨_, handler, heldIds_dropHandler handler⟩
  · rcases ht.called_of_finished hrow hno with hst | hst | hst
    · exact Or.inl hst
    · by_cases hheld : id ∈ t.heldIds
      · exact Or.inr (Or.inr (Or.inl ⟨hst, hheld⟩))
      · refine Or.inr (Or.inr (Or.inr ⟨hst, fun evs' u hrun' hfit' => ?_⟩))
        have hstranded : Ledger.Stranded t.book id :=
          ⟨Sys.book_phase_eq_some.2 ⟨row, hrow, RequestRow.phase_eq_taken.2 hst⟩,
            fun h => hheld (mem_heldIds.2 h)⟩
        obtain ⟨⟨hp, hnot⟩, hcalls⟩ := stranded_of_run ht hrun' hfit' hstranded hno
        obtain ⟨row', hrow', hph⟩ := Sys.book_phase_eq_some.1 hp
        exact ⟨⟨row', hrow', RequestRow.phase_eq_taken.1 hph⟩,
          fun h => hnot (mem_heldIds.1 h), hcalls⟩
    · exact Or.inr (Or.inl hst)

/-- One mail, saved and handed to the send channel. -/
def queuedEvents : List Event :=
  [.request (sampleMail "a" none)] ++ saving 0 ++ [.handOff 0 .ok]

/-- The row is processed, nobody holds it, and SES was never called. -/
theorem queued_mail_lost : ¬ ∀ (E : Env) (now₀ : Instant) (evs : List Event) (s : Sys) (e : Event)
    (t : Sys), Run E now₀ evs s → s.IdsFit → (e = .restart ∨ ∃ i, e = .dropHandler i) →
    s.step E e = some t → ∀ id row, t.db.requests.get? id = some row →
    (∀ call ∈ t.hist.called, call.1.rowid ≠ some id) →
    row.status = EmailMessageStatus.created.asI32 ∨ id ∈ t.heldIds := by
  intro h
  obtain ⟨s, hs, hp⟩ := Exec.exists_of_any (Sys.step sampleEnv) (Sys.init newYear) queuedEvents
    (fun s => decide (s.IdsFit ∧ s.hist.called = []) &&
      (s.db.requests.get? 1).any fun row => row.status = EmailMessageStatus.processed.asI32)
    (by decide)
  simp only [Bool.and_eq_true, decide_eq_true_eq, Option.any_eq_true] at hp
  obtain ⟨⟨hfit, hcalled⟩, row, hrow, hst⟩ := hp
  rcases h sampleEnv newYear queuedEvents s .restart _ hs hfit (Or.inl rfl) rfl 1 row hrow
    (by simp [Sys.boot, hcalled]) with h | h
  · rw [hst] at h; exact absurd h (by decide)
  · cases h

theorem stop_abandons_held_sample :
    ∃ s row, Run sampleEnv newYear queuedEvents s ∧ s.db.requests.get? 1 = some row ∧
      ∀ evs' u, Exec.run (Sys.step sampleEnv) (Sys.boot s.db s.now s.hist) evs' = some u →
        u.IdsFit → 1 ∉ u.heldIds := by
  obtain ⟨s, hs, hp⟩ := Exec.exists_of_any (Sys.step sampleEnv) (Sys.init newYear) queuedEvents
    (fun s => decide (s.IdsFit ∧ s.hist.called = []) &&
      (s.db.requests.get? 1).any fun row => row.status = EmailMessageStatus.processed.asI32)
    (by decide)
  simp only [Bool.and_eq_true, decide_eq_true_eq, Option.any_eq_true] at hp
  obtain ⟨⟨hfit, hcalled⟩, row, hrow, hst⟩ := hp
  refine ⟨s, row, hs, hrow, fun evs' u hrun' hfit' => ?_⟩
  rcases (stop_abandons_held hs hfit (Or.inl rfl) rfl).2.2.2 1 row hrow
    (by simp [Sys.boot, hcalled]) with h | h | ⟨-, h⟩ | ⟨-, h⟩
  · rw [hst] at h; exact absurd h (by decide)
  · rw [hst] at h; exact absurd h (by decide)
  · cases h
  · exact (h evs' u hrun' hfit').2.1

end Ses
