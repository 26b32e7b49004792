import SesSender.Proofs.Bulk
import SesSender.Proofs.Steps

/-! What only ever grows along a run, and the few things a step can do to the
`email_requests` table. -/

namespace Ses

open Calendar

/-- Row ids stay at or below `i32::MAX`. -/
def Sys.IdsFit (s : Sys) : Prop := s.db.requests.seq ≤ i32Max

instance (s : Sys) : Decidable s.IdsFit := inferInstanceAs (Decidable (_ ≤ _))

structure Grows (s t : Sys) : Prop where
  now : s.now.secs ≤ t.now.secs
  seq : s.db.requests.seq ≤ t.db.requests.seq
  rows : ∀ id row, s.db.requests.get? id = some row →
    ∃ row', t.db.requests.get? id = some row' ∧ row'.scheduledAt = row.scheduledAt
  contents : ∀ id c, s.db.contents.get? id = some c → t.db.contents.get? id = some c
  saved : s.hist.saved <+: t.hist.saved
  accepted : s.hist.accepted <+: t.hist.accepted
  called : s.hist.called <+: t.hist.called
  returned : s.hist.returned <+: t.hist.returned

theorem Grows.refl (s : Sys) : Grows s s :=
  ⟨le_refl _, le_refl _, fun _ row h => ⟨row, h, rfl⟩, fun _ _ h => h, List.prefix_refl _,
    List.prefix_refl _, List.prefix_refl _, List.prefix_refl _⟩

theorem Grows.trans {s t u : Sys} (h : Grows s t) (h' : Grows t u) : Grows s u := by
  refine ⟨h.now.trans h'.now, h.seq.trans h'.seq, fun id row hrow => ?_,
    fun id c hc => h'.contents id c (h.contents id c hc), h.saved.trans h'.saved,
    h.accepted.trans h'.accepted, h.called.trans h'.called, h.returned.trans h'.returned⟩
  obtain ⟨row', hrow', hat⟩ := h.rows id row hrow
  obtain ⟨row'', hrow'', hat'⟩ := h'.rows id row' hrow'
  exact ⟨row'', hrow'', hat'.trans hat⟩

/-- What a step can make of the request table. -/
inductive RequestsChange (E : Env) (s : Sys) : Table RequestRow → Prop where
  | same : RequestsChange E s s.db.requests
  | insert {payload contents clock rows}
      (stores : List.Forall₂ (Stores E s.db.contents clock)
        (CreateMessageRequest.requests payload contents) rows) :
      RequestsChange E s (s.db.requests.append rows)
  | rollback {i : ℕ} {loop response} (handler : s.handlers[i]? = some (.rollback loop response)) :
      RequestsChange E s
        (rollbackToCreated s.now (loop.failed.filterMap (·.id)) s.db.requests)
  | claim {chosen} (oldest : OldestDue s.now s.db.requests chosen) :
      RequestsChange E s (claim s.now chosen s.db.requests)
  | stop (topicId) : RequestsChange E s (EmailRequest.stopTopic s.now topicId s.db.requests)
  | bulk {batch last t} (post : s.post = .flushing batch last)
      (written : bulkUpdateAll s.now batch s.db.requests = some t) : RequestsChange E s t
  | update {req rest last} (post : s.post = .draining (req :: rest) last) :
      RequestsChange E s (req.update s.now s.db.requests)

variable {E : Env} {s t : Sys} {e : Event}

theorem Sys.Step.requests (h : s.Step E e t) : RequestsChange E s t.db.requests := by
  cases h with
  | scheduledSaved response handler scheduled save =>
    obtain ⟨rows, rfl, hst, -⟩ := EmailRequest.saveBatch_spec save
    exact .insert hst
  | immediateSaved response handler immediate save =>
    obtain ⟨rows, rfl, hst, -⟩ := EmailRequest.saveBatch_spec save
    exact .insert hst
  | rolledBack handler => exact .rollback handler
  | claimUnread _ oldest _ => exact .claim oldest
  | claimed _ oldest _ => exact .claim oldest
  | stopTopic topicId => exact .stop topicId
  | flushed post written => exact .bulk post written
  | updated post => exact .update post
  | _ => exact .same

theorem RequestsChange.seq_le {r : Table RequestRow} (h : RequestsChange E s r) :
    s.db.requests.seq ≤ r.seq := by
  cases h with
  | insert => rw [Table.seq_append]; omega
  | bulk _ written => rw [seq_bulkUpdateAll written]
  | rollback => simp
  | _ => exact le_refl _

/-- No row is ever deleted or scheduled anew. -/
theorem RequestsChange.rows {r : Table RequestRow} (h : RequestsChange E s r) {id : Int}
    {row : RequestRow} (hrow : s.db.requests.get? id = some row) :
    ∃ row', r.get? id = some row' ∧ row'.scheduledAt = row.scheduledAt := by
  cases h with
  | same => exact ⟨row, hrow, rfl⟩
  | insert => exact ⟨row, (Table.get?_append_old (Table.le_seq_of_get? hrow)).trans hrow, rfl⟩
  | rollback => rw [get?_rollbackToCreated, hrow]; exact ⟨_, rfl, by split <;> rfl⟩
  | claim => rw [get?_claim, hrow]; exact ⟨_, rfl, by split <;> rfl⟩
  | stop => rw [get?_stopTopic, hrow]; exact ⟨_, rfl, by beta_reduce; split <;> rfl⟩
  | bulk _ written =>
    rw [get?_bulkUpdateAll written, hrow]
    exact ⟨_, rfl, by split <;> rfl⟩
  | update => rw [get?_update, hrow]; exact ⟨_, rfl, by split <;> rfl⟩

theorem Sys.Step.grows (h : s.Step E e t) : Grows s t := by
  have hseq := h.requests.seq_le
  have hrows : ∀ id row, s.db.requests.get? id = some row →
      ∃ row', t.db.requests.get? id = some row' ∧ row'.scheduledAt = row.scheduledAt :=
    fun _ _ hrow => h.requests.rows hrow
  have hrest := Grows.refl s
  cases h with
  | tick now le => exact { hrest with now := le }
  | contentsSaved handler save =>
    obtain ⟨rows, rfl, -, -⟩ := EmailContent.saveBatch_spec save
    refine { hrest with contents := fun id c hc => ?_ }
    exact (Table.get?_append_old (Table.le_seq_of_get? hc)).trans hc
  | scheduledSaved =>
    exact { hrest with seq := hseq, rows := hrows, saved := List.prefix_append _ _ }
  | immediateSaved =>
    exact { hrest with seq := hseq, rows := hrows, saved := List.prefix_append _ _ }
  | handOffAccepted => exact { hrest with accepted := List.prefix_append _ _ }
  | blockedAccepted => exact { hrest with accepted := List.prefix_append _ _ }
  | schedulerSent => exact { hrest with accepted := List.prefix_append _ _ }
  | callSes => exact { hrest with called := List.prefix_append _ _ }
  | sesReturn => exact { hrest with returned := List.prefix_append _ _ }
  | _ => exact { hrest with seq := hseq, rows := hrows }

theorem Sys.Step.idsFit (h : s.Step E e t) (ht : t.IdsFit) : s.IdsFit := h.grows.seq.trans ht

theorem grows_of_run {evs : List Event} (h : Exec.run (Sys.step E) s evs = some t) : Grows s t :=
  Exec.run_rel Grows.refl Grows.trans (fun h => (Sys.Step.of_step h).grows) h

end Ses
