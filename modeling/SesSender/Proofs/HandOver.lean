import SesSender.Proofs.LifeCycle
import SesSender.Proofs.Saving

/-! The hand-off loop of `create_message` and its rollback, over every list of
saved requests: which of them end up in the channel, which back in the table,
and the one branch that leaves a request in neither. -/

namespace Ses

open Calendar

variable {E : Env} {t : Table RequestRow} {saved : List EmailRequest} {outcomes : ℕ → SendOutcome}

/-- As `save_batch` returns the requests of an immediate payload: each names a
row of its own, which is processed. -/
structure Saved (t : Table RequestRow) (saved : List EmailRequest) : Prop where
  nodup : (saved.filterMap (·.rowid)).Nodup
  row : ∀ req ∈ saved, ∃ id row, req.rowid = some id ∧ t.get? id = some row ∧
    row.status = EmailMessageStatus.processed.asI32

theorem Saved.of_saveBatch {contents : Table ContentRow} {clock : ℕ → Instant} {F : TxFaults}
    {requests : List EmailRequest} {t t' : Table RequestRow}
    (h : EmailRequest.saveBatch E contents clock F requests t = .ok (saved, t'))
    (hfit : t'.seq ≤ i32Max)
    (hst : ∀ req ∈ requests, req.status = EmailMessageStatus.processed.asI32) : Saved t' saved := by
  refine ⟨?_, ?_⟩
  · rw [save_rowids h hfit]
    exact List.nodup_range.map fun k₁ k₂ hk => by simpa using hk
  · intro req hreq
    obtain ⟨id, row, now, hlow, hhigh, hid, hrow, hto⟩ := EmailRequest.saved_row h hreq
    obtain ⟨_, req₀, hreq₀, rfl⟩ := EmailRequest.mem_saved h hreq
    obtain ⟨_, _, _, _, rfl⟩ := EmailRequest.toRow_eq_some.1 hto
    have h0 := t.seq_nonneg
    refine ⟨id, _, ?_, hrow, hst req₀ hreq₀⟩
    rw [EmailRequest.rowid, hid, Option.map_some, asI32_toInt (by omega) (by omega)]

/-- The requests before a place and those from it on have no row in common. -/
theorem Saved.rowid_ne (h : Saved t saved) {front back : List EmailRequest}
    (hsplit : saved = front ++ back) {req req' : EmailRequest} (hreq : req ∈ front)
    (hreq' : req' ∈ back) : req.rowid ≠ req'.rowid := by
  intro heq
  have hnodup := h.nodup
  rw [hsplit, List.filterMap_append, List.nodup_append] at hnodup
  obtain ⟨id, _, hid, -⟩ := h.row req (by rw [hsplit]; exact List.mem_append_left _ hreq)
  exact hnodup.2.2 id (List.mem_filterMap.2 ⟨req, hreq, hid⟩) id
    (List.mem_filterMap.2 ⟨req', hreq', heq ▸ hid⟩) rfl

/-- The rollback brings back the listed rows and leaves the others processed. -/
theorem Saved.status_rollback (h : Saved t saved) (now : Instant) (back : List EmailRequest)
    {req : EmailRequest} (hreq : req ∈ saved) :
    ∃ id row, req.rowid = some id ∧
      (rollbackToCreated now ((back.map EmailRequest.markCreated).filterMap (·.id)) t).get? id =
        some row ∧
      row.status = if ∃ req' ∈ back, req'.rowid = req.rowid then EmailMessageStatus.created.asI32
        else EmailMessageStatus.processed.asI32 := by
  obtain ⟨id, row, hid, hrow, hst⟩ := h.row req hreq
  refine ⟨id, _, hid, by rw [get?_rollbackToCreated, hrow]; rfl, ?_⟩
  rw [rowids_markCreated, hid]
  simp only [List.mem_filterMap]
  split
  · rfl
  · exact hst

/-- What the call owes a request: it is in the channel and its row processed, or
it is not and its row waits again. -/
def HandOff.Settles (loop : HandOff) (t : Table RequestRow) (req : EmailRequest) : Prop :=
  ∃ id row, req.rowid = some id ∧ t.get? id = some row ∧
    ((req ∈ loop.pushed ∧ row.status = EmailMessageStatus.processed.asI32) ∨
      (req ∉ loop.pushed ∧ row.status = EmailMessageStatus.created.asI32))

/-- Once the loop and a rollback that succeeds are done. -/
def HandOff.LosesNone (saved : List EmailRequest) (now : Instant) (t : Table RequestRow)
    (loop : HandOff) : Prop :=
  (∀ req ∈ saved,
    loop.Settles (rollbackToCreated now (loop.failed.filterMap (·.id)) t) req) ∧
  ∀ req ∈ loop.pushed, ∀ req' ∈ loop.failed, req.rowid ≠ req'.rowid

theorem Saved.losesNone_taken (h : Saved t saved) (now : Instant) :
    HandOff.LosesNone saved now t ⟨saved, [], false⟩ := by
  refine ⟨fun req hreq => ?_, fun req _ req' hreq' => by cases hreq'⟩
  obtain ⟨id, row, hid, hrow, hst⟩ := h.status_rollback now [] hreq
  exact ⟨id, row, hid, hrow, Or.inl ⟨hreq, by simpa using hst⟩⟩

theorem Saved.losesNone_refused (h : Saved t saved) (now : Instant) {sent back : List EmailRequest}
    (hsplit : saved = sent ++ back) :
    HandOff.LosesNone saved now t ⟨sent, back.map EmailRequest.markCreated, true⟩ := by
  refine ⟨?_, ?_⟩
  · intro req hreq
    obtain ⟨id, row, hid, hrow, hst⟩ := h.status_rollback now back hreq
    refine ⟨id, row, hid, hrow, ?_⟩
    rw [hsplit, List.mem_append] at hreq
    rcases hreq with hreq | hreq
    · have hno : ¬ ∃ req' ∈ back, req'.rowid = req.rowid := by
        rintro ⟨req', hreq', heq⟩
        exact h.rowid_ne hsplit hreq hreq' heq.symm
      rw [if_neg hno] at hst
      exact Or.inl ⟨hreq, hst⟩
    · rw [if_pos ⟨req, hreq, rfl⟩] at hst
      exact Or.inr ⟨fun hsent => h.rowid_ne hsplit hsent hreq rfl, hst⟩
  · intro req hreq req' hreq'
    obtain ⟨req₀, hreq₀, rfl⟩ := List.mem_map.1 hreq'
    change req.rowid ≠ req₀.rowid
    exact h.rowid_ne hsplit hreq hreq₀

/-- A request whose awaited `send` fails is not in the channel, and its row stays processed. -/
theorem Saved.not_losesNone (h : Saved t saved) (now : Instant) {sent rest : List EmailRequest}
    {req : EmailRequest} (hsplit : saved = sent ++ req :: rest) :
    ¬ HandOff.LosesNone saved now t ⟨sent, rest.map EmailRequest.markCreated, true⟩ := by
  intro hall
  have hreq : req ∈ saved := by rw [hsplit]; simp
  have hsent : req ∉ sent := fun hmem => h.rowid_ne hsplit hmem (by simp) rfl
  have hrest : ¬ ∃ req' ∈ rest, req'.rowid = req.rowid := by
    rintro ⟨req', hreq', heq⟩
    have hsplit' : saved = (sent ++ [req]) ++ rest := by rw [hsplit]; simp
    exact h.rowid_ne hsplit' (by simp) hreq' heq.symm
  obtain ⟨id, row, hid, hrow, hst⟩ := h.status_rollback now rest hreq
  rw [if_neg hrest] at hst
  obtain ⟨id', row', hid', hrow', hcase⟩ := hall.1 req hreq
  obtain rfl := Option.some.inj (hid.symm.trans hid')
  obtain rfl := Option.some.inj (hrow.symm.trans hrow')
  rcases hcase with ⟨hmem, -⟩ | ⟨-, hcreated⟩
  · exact hsent hmem
  · rw [hst] at hcreated
    exact absurd hcreated (by decide)

/-- The loop loses no request exactly when no awaited `send` fails before
`try_send` has found the channel closed. -/
theorem handOff_losesNone_iff (h : Saved t saved) (outcomes : ℕ → SendOutcome) (now : Instant) :
    (handOff saved outcomes).LosesNone saved now t ↔
      ∀ i < saved.length, outcomes i = .fullClosed → ∃ j < i, outcomes j = .closed := by
  generalize hl : handOff saved outcomes = loop
  cases hl ▸ handOff_ends saved outcomes with
  | taken ok =>
    refine iff_of_true (h.losesNone_taken now) fun i hi hclosed => ?_
    rcases ok i hi with ho | ho <;> rw [ho] at hclosed <;> cases hclosed
  | @refused sent req rest split ok closed =>
    refine iff_of_true (h.losesNone_refused now split) fun i _ hclosed => ⟨sent.length, ?_, closed⟩
    rcases Nat.lt_trichotomy i sent.length with hi | rfl | hi
    · rcases ok i hi with ho | ho <;> rw [ho] at hclosed <;> cases hclosed
    · rw [closed] at hclosed
      cases hclosed
    · exact hi
  | @lost sent req rest split ok closed =>
    refine iff_of_false (h.not_losesNone now split) fun hcond => ?_
    obtain ⟨j, hj, hclosed⟩ := hcond sent.length (by rw [split]; simp) closed
    rcases ok j hj with ho | ho <;> rw [ho] at hclosed <;> cases hclosed

/-! ## Some requests, and a channel that closes -/

/-- The requests and their table after the save of immediate mails with one content. -/
def mailsSaved (payload : CreateMessageRequest) :
    Except SqlxError (List EmailRequest × Table RequestRow) :=
  EmailRequest.saveBatch sampleEnv (Table.empty.append [⟨"Hello", "<p>Hi</p>", newYear.stamp⟩])
    (fun _ => newYear) .none (payload.mails 0) Table.empty

theorem exists_saved {payload : CreateMessageRequest} (p : List EmailRequest → Bool)
    (hst : ∀ req ∈ payload.mails 0, req.status = EmailMessageStatus.processed.asI32)
    (hok : ((mailsSaved payload).toOption.any fun r => p r.1 && r.2.seq ≤ i32Max) = true) :
    ∃ saved t, mailsSaved payload = .ok (saved, t) ∧ p saved = true ∧ Saved t saved := by
  obtain ⟨⟨saved, t⟩, hsaved, hp⟩ := (Option.any_eq_true _ _).1 hok
  obtain ⟨hp, hfit⟩ := (Bool.and_eq_true _ _).mp hp
  have hsave : mailsSaved payload = .ok (saved, t) := by
    cases h : mailsSaved payload with
    | error e => rw [h] at hsaved; cases hsaved
    | ok r => rw [h] at hsaved; exact congrArg Except.ok (Option.some.inj hsaved)
  exact ⟨saved, t, hsave, hp, Saved.of_saveBatch hsave (of_decide_eq_true hfit) hst⟩

def threeMails : CreateMessageRequest :=
  ⟨[⟨some "a", ["one@example.com", "two@example.com", "three@example.com"], "Hello",
    "<p>Hi</p>"⟩], none⟩

/-- The first is accepted, the second finds the channel closed, the third is not tried. -/
def closingOutcomes : ℕ → SendOutcome
  | 0 => .ok
  | 1 => .closed
  | _ => .fullClosed

theorem handOff_losesNone_iff_sample : ∃ saved t, mailsSaved threeMails = .ok (saved, t) ∧
    saved.length = 3 ∧ (handOff saved closingOutcomes).pushed = saved.take 1 ∧
    (handOff saved closingOutcomes).LosesNone saved newYear t := by
  obtain ⟨saved, t, hsave, hp, h⟩ := @exists_saved threeMails
    (fun saved => decide (saved.length = 3 ∧
      (handOff saved closingOutcomes).pushed = saved.take 1)) (by decide) (by decide)
  obtain ⟨hlen, hpushed⟩ := of_decide_eq_true hp
  refine ⟨saved, t, hsave, hlen, hpushed,
    (handOff_losesNone_iff h closingOutcomes newYear).2 fun i _ hclosed => ⟨1, ?_, rfl⟩⟩
  match i with
  | 0 => cases hclosed
  | 1 => cases hclosed
  | i + 2 => omega

theorem not_losesNone_of_fullClosed :
    ¬ ∀ (t : Table RequestRow) (saved : List EmailRequest) (outcomes : ℕ → SendOutcome)
      (now : Instant), Saved t saved → (handOff saved outcomes).LosesNone saved now t := by
  intro hall
  obtain ⟨saved, t, -, hp, h⟩ := @exists_saved (sampleMail "a" none)
    (fun saved => decide (saved.length = 1)) (by decide) (by decide)
  obtain ⟨req, rfl⟩ := List.length_eq_one_iff.1 (of_decide_eq_true hp)
  have hsplit : [req] = [] ++ req :: [] := rfl
  exact h.not_losesNone newYear hsplit (hall t [req] (fun _ => .fullClosed) newYear h)

end Ses
