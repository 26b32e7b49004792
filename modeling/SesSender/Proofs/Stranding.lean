import SesSender.Proofs.Agreement

/-! What a call of `fetch_and_process_batch` that fails after its claim leaves
behind. Nothing brings a claimed row back. -/

namespace Ses

open Calendar

/-- The rows whose requests the channel has accepted: they are sent in order. -/
def BatchResult.sentIds (res : BatchResult) (env : BatchEnv) : List Int :=
  (env.rows.take res.pushed.length).map (·.id)

/-- Every claimed row is in the channel or waits again. -/
def BatchResult.StrandsNone (res : BatchResult) (env : BatchEnv) : Prop :=
  ∀ id ∈ env.chosen, id ∈ res.sentIds env ∨ ∃ row, res.db.requests.get? id = some row ∧
    row.status = EmailMessageStatus.created.asI32

variable {env : BatchEnv} {db : Db} {res : BatchResult} {e : SchedulerError}

theorem Fetched.pushed_eq (h : Fetched env db res) :
    res.pushed = (env.rows.take res.pushed.length).map ScheduledEmailRow.toRequest := by
  cases h with
  | closed oldest selected perm after lt =>
    rw [List.length_map, List.length_take, Nat.min_eq_left lt.le]
  | sent => simp
  | _ => rfl

/-- A claimed row is processed when the call returns, whatever the call returns. -/
theorem Fetched.processed (h : Fetched env db res) (hfail : env.updateFails = false) :
    ∀ id ∈ env.chosen, ∃ row, res.db.requests.get? id = some row ∧
      row.status = EmailMessageStatus.processed.asI32 := by
  have hclaim : OldestDue env.now db.requests env.chosen → res.db = env.claimed db →
      ∀ id ∈ env.chosen, ∃ row, res.db.requests.get? id = some row ∧
        row.status = EmailMessageStatus.processed.asI32 := by
    intro hold hdb id hid
    obtain ⟨row, hrow, -⟩ := hold.due hid
    have hget := get?_claim env.now env.chosen db.requests id
    rw [hrow, Option.map_some, if_pos hid] at hget
    rw [hdb]
    exact ⟨_, hget, rfl⟩
  cases h with
  | updateFailed fails => rw [hfail] at fails; cases fails
  | unreturned oldest => exact hclaim oldest rfl
  | idle oldest => exact hclaim oldest rfl
  | selectFailed oldest => exact hclaim oldest rfl
  | unread oldest => exact hclaim oldest rfl
  | closed oldest => exact hclaim oldest rfl
  | sent oldest => exact hclaim oldest rfl

/-- A call that fails has claimed a row it did not send. -/
theorem Fetched.exists_unsent (h : Fetched env db res) (hfail : env.updateFails = false)
    (herr : res.result = .error e) : ∃ id ∈ env.chosen, id ∉ res.sentIds env := by
  have hnone : env.chosen ≠ [] → res.pushed = [] → ∃ id ∈ env.chosen, id ∉ res.sentIds env := by
    intro hne hpushed
    obtain ⟨id, hid⟩ := List.exists_mem_of_ne_nil _ hne
    exact ⟨id, hid, by simp [BatchResult.sentIds, hpushed]⟩
  cases h with
  | updateFailed fails => rw [hfail] at fails; cases fails
  | unreturned oldest returned =>
    refine hnone (fun hnil => ?_) rfl
    rw [hnil] at returned
    cases returned
  | idle => cases herr
  | selectFailed oldest chosen => exact hnone chosen rfl
  | unread oldest chosen => exact hnone chosen rfl
  | @closed rows k oldest selected perm after lt =>
    -- the row at which the channel was found closed
    have hids : (env.rows.map (·.id)).Nodup := by
      refine (perm.map _).nodup_iff.2 ?_
      rw [selectScheduled_ids selected]
      exact nodup_joined _ _
    have hmem : env.rows[k] ∈ rows := perm.subset (List.getElem_mem lt)
    have hchosen : env.rows[k].id ∈ (joined (env.claimed db) env.chosen).map Prod.fst := by
      rw [← selectScheduled_ids selected]
      exact List.mem_map_of_mem hmem
    obtain ⟨⟨id, row, c⟩, hj, hid⟩ := List.mem_map.1 hchosen
    refine ⟨env.rows[k].id, ?_, fun hsent => ?_⟩
    · rw [← hid]
      exact (mem_joined.1 hj).1
    · rw [BatchResult.sentIds, List.length_map, List.length_take, Nat.min_eq_left lt.le] at hsent
      rw [← List.take_append_drop k env.rows, List.map_append] at hids
      refine List.disjoint_of_nodup_append hids hsent ?_
      rw [List.drop_eq_getElem_cons lt, List.map_cons]
      exact List.mem_cons_self
  | sent => cases herr

theorem Fetched.strands (h : Fetched env db res) (hfail : env.updateFails = false)
    (herr : res.result = .error e) : ¬ res.StrandsNone env := by
  intro hnone
  obtain ⟨id, hid, hunsent⟩ := h.exists_unsent hfail herr
  rcases hnone id hid with hsent | ⟨row, hrow, hst⟩
  · exact hunsent hsent
  · obtain ⟨row', hrow', hst'⟩ := h.processed hfail id hid
    obtain rfl := Option.some.inj (hrow.symm.trans hrow')
    rw [hst] at hst'
    exact absurd hst' (by decide)

/-- No call that fails once its claim has taken effect leaves every claimed row
either sent or waiting. -/
theorem failed_batch_strands (h : fetchAndProcessBatch env db = some res)
    (hfail : env.updateFails = false) (herr : res.result = .error e) :
    res.pushed = (env.rows.take res.pushed.length).map ScheduledEmailRow.toRequest ∧
    (∀ id ∈ env.chosen, ∃ row, res.db.requests.get? id = some row ∧
      row.status = EmailMessageStatus.processed.asI32) ∧
    ¬ res.StrandsNone env :=
  ⟨(Fetched.of_call h).pushed_eq, (Fetched.of_call h).processed hfail,
    (Fetched.of_call h).strands hfail herr⟩

/-- One scheduled mail, due at the new year. -/
def dueDb : Db :=
  (createMessage sampleEnv openEnv (sampleMail "a" (some "2030-01-01 09:00:00")) Db.empty).db

/-- Its row is picked, and then the channel turns out to be closed. -/
def closedBatch : BatchEnv :=
  ⟨newYear, [1], [⟨1, "a", 1, "reader@example.com", "Hello", "<p>Hi</p>"⟩], false, false, some 0⟩

theorem closedBatch_fails : ∃ res e, fetchAndProcessBatch closedBatch dueDb = some res ∧
    res.result = .error e := by
  have hcall : ((fetchAndProcessBatch closedBatch dueDb).any fun res =>
      res.result.toOption.isNone) = true := by decide
  obtain ⟨res, hres, hp⟩ := (Option.any_eq_true _ _).1 hcall
  cases hr : res.result with
  | ok n => rw [hr] at hp; cases hp
  | error e => exact ⟨res, e, hres, hr⟩

theorem failed_batch_strands_sample : ∃ res,
    fetchAndProcessBatch closedBatch dueDb = some res ∧ ¬ res.StrandsNone closedBatch := by
  obtain ⟨res, e, hres, herr⟩ := closedBatch_fails
  exact ⟨res, hres, (failed_batch_strands hres rfl herr).2.2⟩

theorem not_strandsNone : ¬ ∀ (env : BatchEnv) (db : Db) (res : BatchResult) (e : SchedulerError),
    fetchAndProcessBatch env db = some res → env.updateFails = false → res.result = .error e →
    res.StrandsNone env := by
  intro hall
  obtain ⟨res, e, hres, herr⟩ := closedBatch_fails
  exact (Fetched.of_call hres).strands rfl herr (hall closedBatch dueDb res e hres rfl herr)

end Ses
