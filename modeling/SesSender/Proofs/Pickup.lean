import SesSender.Proofs.Statements

/-! What the scheduler makes of the rows that wait: `fetch_and_process_batch`,
called until it returns 0, pushes the mail of each of them once. -/

namespace Ses

open Calendar

/-! ## The oldest due rows -/

theorem nodup_dueRows (now : Instant) (t : Table RequestRow) :
    ((dueRows now t).map Prod.fst).Nodup :=
  t.nodup.sublist (List.filter_sublist.map _)

/-- There are always rows to pick, in every order of equal times. -/
theorem exists_oldestDue (now : Instant) (t : Table RequestRow) :
    ∃ chosen, OldestDue now t chosen := by
  let le (a b : Int × RequestRow) : Bool := decide (a.2.scheduledAt ≤ b.2.scheduledAt)
  let sorted := (dueRows now t).mergeSort le
  have hperm : sorted.Perm (dueRows now t) := List.mergeSort_perm _ _
  have hsorted : sorted.Pairwise fun a b => le a b = true := by
    apply List.pairwise_mergeSort
    · intro a b c hab hbc
      simp only [le, decide_eq_true_eq] at *
      exact String.le_trans hab hbc
    · intro a b
      simpa [le] using String.le_total a.2.scheduledAt b.2.scheduledAt
  have hnodup : (sorted.map Prod.fst).Nodup :=
    (hperm.map Prod.fst).nodup_iff.2 (nodup_dueRows now t)
  have hsplit : sorted.take Scheduler.BATCH_SIZE ++ sorted.drop Scheduler.BATCH_SIZE = sorted :=
    List.take_append_drop _ _
  refine ⟨(sorted.take Scheduler.BATCH_SIZE).map Prod.fst, ?_, ?_, ?_, ?_⟩
  · exact hnodup.sublist ((List.take_sublist _ _).map _)
  · intro id hid
    obtain ⟨r, hr, rfl⟩ := List.mem_map.1 hid
    exact List.mem_map_of_mem (hperm.subset (List.mem_of_mem_take hr))
  · rw [List.length_map, List.length_take, hperm.length_eq]
  · intro r hr hin r' hr' hout
    obtain ⟨x, hx, hxr⟩ := List.mem_map.1 hin
    obtain rfl : x = r := List.inj_on_of_nodup_map (nodup_dueRows now t)
      (hperm.subset (List.mem_of_mem_take hx)) hr hxr
    have hlast : r' ∈ sorted.drop Scheduler.BATCH_SIZE := by
      have hmem := hperm.symm.subset hr'
      rw [← hsplit] at hmem
      rcases List.mem_append.1 hmem with hfirst | hlast
      · exact absurd (List.mem_map_of_mem hfirst) hout
      · exact hlast
    rw [← hsplit] at hsorted
    exact of_decide_eq_true ((List.pairwise_append.1 hsorted).2.2 x hx r' hlast)

/-! ## The mail of a row -/

/-- The row of the JOIN for one id. -/
def Db.scheduledRow (db : Db) (id : Int) : Option ScheduledEmailRow := do
  let row ← db.requests.get? id
  let c ← db.contents.get? row.contentId
  let contentId ← decodeI32 row.contentId
  some { id, topicId := row.topicId, contentId, email := row.email
         subject := c.subject, content := c.content }

/-- The request the scheduler makes of a row. -/
def Db.mail (db : Db) (id : Int) : Option EmailRequest :=
  (db.scheduledRow id).map ScheduledEmailRow.toRequest

theorem Db.scheduledRow_eq_some {db : Db} {id : Int} {r : ScheduledEmailRow} :
    db.scheduledRow id = some r ↔ ∃ row c contentId, db.requests.get? id = some row ∧
      db.contents.get? row.contentId = some c ∧ decodeI32 row.contentId = some contentId ∧
      r = ⟨id, row.topicId, contentId, row.email, c.subject, c.content⟩ := by
  unfold Db.scheduledRow
  simp only [Option.bind_eq_bind, Option.bind_eq_some_iff, Option.some.injEq]
  refine ⟨?_, ?_⟩
  · rintro ⟨row, hrow, c, hc, x, hx, rfl⟩
    exact ⟨row, c, x, hrow, hc, hx, rfl⟩
  · rintro ⟨row, c, x, hrow, hc, hx, rfl⟩
    exact ⟨row, hrow, c, hc, x, hx, rfl⟩

theorem scheduledRow_claim (now : Instant) (chosen : List Int) (db : Db) (id : Int) :
    ({ db with requests := claim now chosen db.requests } : Db).scheduledRow id =
      db.scheduledRow id := by
  unfold Db.scheduledRow
  rw [get?_claim]
  cases db.requests.get? id with
  | none => rfl
  | some row =>
    rw [Option.map_some]
    split <;> rfl

theorem mail_claim (now : Instant) (chosen : List Int) (db : Db) :
    ({ db with requests := claim now chosen db.requests } : Db).mail = db.mail := by
  funext id
  unfold Db.mail
  rw [scheduledRow_claim]

/-- The `SELECT` of phase 2 yields each id's row once. -/
theorem selectScheduled_perm {db : Db} {ids : List Int} {rows : List ScheduledEmailRow}
    (hn : ids.Nodup) (h : selectScheduled db ids = some rows) :
    rows.Perm (ids.filterMap db.scheduledRow) := by
  have hall := Lists.mapM_eq_some.1 h
  have hnodup : rows.Nodup := by
    apply List.Nodup.of_map (·.id)
    rw [selectScheduled_ids h]
    exact nodup_joined db ids
  have hnodup' : (ids.filterMap db.scheduledRow).Nodup := by
    refine hn.filterMap ?_
    intro a b r ha hb
    obtain ⟨_, _, _, -, -, -, rfl⟩ := Db.scheduledRow_eq_some.1 ha
    obtain ⟨_, _, _, -, -, -, hr⟩ := Db.scheduledRow_eq_some.1 hb
    exact congrArg ScheduledEmailRow.id hr
  refine (List.perm_ext_iff_of_nodup hnodup hnodup').2 fun r => ?_
  rw [List.mem_filterMap]
  refine ⟨?_, ?_⟩
  · intro hr
    obtain ⟨⟨id, row, c⟩, hj, hrow⟩ := Lists.forall₂_mem_right hall hr
    obtain ⟨hid, hget, hc⟩ := mem_joined.1 hj
    obtain ⟨x, hx, hrow⟩ := Option.bind_eq_some_iff.1 hrow
    exact ⟨id, hid, Db.scheduledRow_eq_some.2 ⟨row, c, x, hget, hc, hx, (Option.some.inj hrow).symm⟩⟩
  · rintro ⟨id, hid, hr⟩
    obtain ⟨row, c, x, hget, hc, hx, rfl⟩ := Db.scheduledRow_eq_some.1 hr
    obtain ⟨i, hi⟩ := List.mem_iff_getElem?.1 (mem_joined.2 ⟨hid, hget, hc⟩)
    obtain ⟨r', hr', hrow⟩ := Lists.forall₂_getElem?_left hall hi
    simp only [hx, Option.bind_eq_bind, Option.bind_some, Option.some.injEq] at hrow
    rw [hrow]
    exact List.mem_of_getElem? hr'

/-! ## One call -/

/-- The database after phase 1. -/
def BatchEnv.claimed (env : BatchEnv) (db : Db) : Db :=
  { db with requests := claim env.now env.chosen db.requests }

/-- How a call can end, one rule for each return. -/
inductive Fetched (env : BatchEnv) (db : Db) : BatchResult → Prop where
  | updateFailed (fails : env.updateFails = true) :
      Fetched env db ⟨db, [], .error (.database .database)⟩
  | unreturned (oldest : OldestDue env.now db.requests env.chosen)
      (returned : returning (env.claimed db).requests env.chosen = none) :
      Fetched env db ⟨env.claimed db, [], .error (.database .database)⟩
  | idle (oldest : OldestDue env.now db.requests env.chosen) (chosen : env.chosen = []) :
      Fetched env db ⟨env.claimed db, [], .ok 0⟩
  | selectFailed (oldest : OldestDue env.now db.requests env.chosen) (chosen : env.chosen ≠ [])
      (fails : env.selectFails = true) :
      Fetched env db ⟨env.claimed db, [], .error (.database .database)⟩
  | unread (oldest : OldestDue env.now db.requests env.chosen) (chosen : env.chosen ≠ [])
      (selected : selectScheduled (env.claimed db) env.chosen = none) :
      Fetched env db ⟨env.claimed db, [], .error (.database .database)⟩
  | closed {rows k} (oldest : OldestDue env.now db.requests env.chosen)
      (selected : selectScheduled (env.claimed db) env.chosen = some rows)
      (perm : env.rows.Perm rows) (after : env.closedAfter = some k) (lt : k < env.rows.length) :
      Fetched env db ⟨env.claimed db, (env.rows.take k).map ScheduledEmailRow.toRequest,
        .error .channelClosed⟩
  | sent {rows} (oldest : OldestDue env.now db.requests env.chosen) (chosen : env.chosen ≠ [])
      (selected : selectScheduled (env.claimed db) env.chosen = some rows)
      (perm : env.rows.Perm rows) :
      Fetched env db ⟨env.claimed db, env.rows.map ScheduledEmailRow.toRequest,
        .ok env.chosen.length⟩

theorem Fetched.of_call {env : BatchEnv} {db : Db} {res : BatchResult}
    (h : fetchAndProcessBatch env db = some res) : Fetched env db res := by
  unfold fetchAndProcessBatch at h
  split at h
  · rename_i hfails
    obtain rfl := Option.some.inj h
    exact .updateFailed hfails
  · split at h
    · cases h
    · rename_i hold
      have hold := not_not.1 hold
      simp only at h
      split at h
      · rename_i hret
        obtain rfl := Option.some.inj h
        exact .unreturned hold hret
      · rename_i updated hret
        have hids := returning_ids hret
        have hlen : updated.length = env.chosen.length := by rw [← hids, List.length_map]
        split at h
        · rename_i hemp
          obtain rfl : updated = [] := by simpa using hemp
          obtain rfl := Option.some.inj h
          exact .idle hold hids.symm
        · rename_i hemp
          have hne : env.chosen ≠ [] := by
            rw [← hids]
            simpa using hemp
          rw [hids] at h
          split at h
          · rename_i hfails
            obtain rfl := Option.some.inj h
            exact .selectFailed hold hne hfails
          · split at h
            · rename_i hsel
              obtain rfl := Option.some.inj h
              exact .unread hold hne hsel
            · rename_i rows hsel
              split at h
              · cases h
              · rename_i hperm
                have hperm := List.isPerm_iff.1 (not_not.1 hperm)
                rw [hlen] at h
                split at h
                · rename_i k hk
                  split at h
                  · rename_i hlt
                    obtain rfl := Option.some.inj h
                    rw [← List.map_take]
                    exact .closed hold hsel hperm hk (by simpa using hlt)
                  · obtain rfl := Option.some.inj h
                    exact .sent hold hne hsel hperm
                · obtain rfl := Option.some.inj h
                  exact .sent hold hne hsel hperm

theorem Fetched.oldest {env : BatchEnv} {db : Db} {res : BatchResult} (h : Fetched env db res)
    (henv : env.FailureFree) : OldestDue env.now db.requests env.chosen := by
  cases h with
  | updateFailed fails => rw [henv.update] at fails; cases fails
  | _ => assumption

/-- The rows read in phase 2 are the rows claimed, each once. -/
theorem OldestDue.rows_perm {env : BatchEnv} {db : Db}
    (h : OldestDue env.now db.requests env.chosen) {rows : List ScheduledEmailRow}
    (hsel : selectScheduled (env.claimed db) env.chosen = some rows)
    (hperm : env.rows.Perm rows) : env.rows.Perm (env.chosen.filterMap db.scheduledRow) := by
  have hrows := hperm.trans (selectScheduled_perm h.1 hsel)
  have hsame : (env.claimed db).scheduledRow = db.scheduledRow :=
    funext (scheduledRow_claim env.now env.chosen db)
  rwa [hsame] at hrows

/-- A call that returns a count has claimed that many rows and pushed their mails. -/
theorem fetchAndProcessBatch_spec {env : BatchEnv} {db : Db} {res : BatchResult} {n : ℕ}
    (h : fetchAndProcessBatch env db = some res) (hn : res.result = .ok n) :
    OldestDue env.now db.requests env.chosen ∧ n = env.chosen.length ∧
      res.db = { db with requests := claim env.now env.chosen db.requests } ∧
      res.pushed.Perm (env.chosen.filterMap db.mail) := by
  have hmail : env.chosen.filterMap db.mail =
      (env.chosen.filterMap db.scheduledRow).map ScheduledEmailRow.toRequest := by
    rw [List.map_filterMap]
    rfl
  cases Fetched.of_call h with
  | idle oldest chosen =>
    obtain rfl := Except.ok.inj hn
    exact ⟨oldest, by rw [chosen]; rfl, rfl, by rw [chosen]; rfl⟩
  | sent oldest chosen selected perm =>
    obtain rfl := Except.ok.inj hn
    refine ⟨oldest, rfl, rfl, ?_⟩
    rw [hmail]
    exact (oldest.rows_perm selected perm).map _
  | _ => cases hn

/-- Whatever may be picked, there is a call that picks it. -/
theorem exists_call {now : Instant} {db : Db} {chosen : List Int}
    (hold : OldestDue now db.requests chosen) :
    ∃ env res, env.now = now ∧ env.chosen = chosen ∧ env.FailureFree ∧
      fetchAndProcessBatch env db = some res := by
  let rows := (selectScheduled { db with requests := claim now chosen db.requests } chosen).getD []
  let env : BatchEnv := ⟨now, chosen, rows, false, false, none⟩
  have hcall : ∃ res, fetchAndProcessBatch env db = some res := by
    simp only [fetchAndProcessBatch, env, hold, Bool.false_eq_true, not_true, if_false]
    split
    · exact ⟨_, rfl⟩
    · rename_i updated hret
      split
      · exact ⟨_, rfl⟩
      · rw [returning_ids hret]
        split
        · exact ⟨_, rfl⟩
        · rename_i rows' hsel
          have hrows : rows = rows' := by simp only [rows, hsel, Option.getD_some]
          have hperm : rows'.isPerm rows' = true := List.isPerm_iff.2 (List.Perm.refl _)
          rw [hrows, if_neg (not_not.2 hperm)]
          exact ⟨_, rfl⟩
  obtain ⟨res, hres⟩ := hcall
  exact ⟨env, res, rfl, rfl, ⟨rfl, rfl, rfl⟩, hres⟩

/-- When nothing fails and the content ids decode, a call returns a count. -/
theorem Fetched.exists_ok {env : BatchEnv} {db : Db} {res : BatchResult} (h : Fetched env db res)
    (henv : env.FailureFree)
    (hdec : ∀ id ∈ env.chosen, ∀ row, db.requests.get? id = some row →
      ∃ x, decodeI32 row.contentId = some x) : ∃ n, res.result = .ok n := by
  have hdec' : ∀ id ∈ env.chosen, ∀ row, (env.claimed db).requests.get? id = some row →
      ∃ x, decodeI32 row.contentId = some x := by
    intro id hid row' hrow'
    obtain ⟨row, hrow, hc⟩ := claim_contentId hrow'
    rw [hc]
    exact hdec id hid row hrow
  cases h with
  | updateFailed fails => rw [henv.update] at fails; cases fails
  | unreturned oldest returned =>
    obtain ⟨updated, hret⟩ : ∃ updated, returning (env.claimed db).requests env.chosen =
        some updated := by
      apply returning_isSome
      intro id hid
      obtain ⟨row, hrow, -⟩ := oldest.due hid
      have hrow' := get?_claim env.now env.chosen db.requests id
      rw [hrow, Option.map_some] at hrow'
      obtain ⟨x, hx⟩ := hdec' id hid _ hrow'
      exact ⟨_, x, hrow', hx⟩
    rw [returned] at hret
    cases hret
  | idle => exact ⟨0, rfl⟩
  | selectFailed oldest chosen fails => rw [henv.select] at fails; cases fails
  | unread oldest chosen selected =>
    obtain ⟨rows, hsel⟩ := selectScheduled_isSome env.chosen hdec'
    rw [selected] at hsel
    cases hsel
  | closed oldest selected perm after => rw [henv.send] at after; cases after
  | sent => exact ⟨_, rfl⟩

/-! ## Until nothing is left -/

/-- At each time with `P`, the rows that are due are exactly the listed ones. -/
structure Waiting (P : Instant → Prop) (t : Table RequestRow) (ids : List Int) : Prop where
  nodup : ids.Nodup
  rows : ∀ id ∈ ids, ∃ row, t.get? id = some row
  due_iff : ∀ now, P now → ∀ id row, t.get? id = some row → (due now row = true ↔ id ∈ ids)

variable {P : Instant → Prop} {t : Table RequestRow} {ids : List Int}

theorem Waiting.mem_dueRows (hw : Waiting P t ids) {now : Instant} (hnow : P now) (id : Int) :
    id ∈ (dueRows now t).map Prod.fst ↔ id ∈ ids := by
  rw [List.mem_map]
  refine ⟨?_, ?_⟩
  · rintro ⟨⟨id, row⟩, hr, rfl⟩
    obtain ⟨hrow, hdue⟩ := Ses.mem_dueRows.1 hr
    exact (hw.due_iff now hnow id row hrow).1 hdue
  · intro hid
    obtain ⟨row, hrow⟩ := hw.rows id hid
    exact ⟨(id, row), Ses.mem_dueRows.2 ⟨hrow, (hw.due_iff now hnow id row hrow).2 hid⟩, rfl⟩

theorem Waiting.chosen_subset (hw : Waiting P t ids) {now : Instant} (hnow : P now)
    {chosen : List Int} (hold : OldestDue now t chosen) : ∀ id ∈ chosen, id ∈ ids :=
  fun id hid => (hw.mem_dueRows hnow id).1 (hold.2.1 id hid)

/-- Nothing is picked only when nothing waits. -/
theorem Waiting.eq_nil (hw : Waiting P t ids) {now : Instant} (hnow : P now)
    (hold : OldestDue now t []) : ids = [] := by
  have hlen : (dueRows now t).length = 0 := by
    have := hold.2.2.1
    simp only [List.length_nil, Scheduler.BATCH_SIZE] at this
    omega
  have hnil := List.length_eq_zero_iff.1 hlen
  refine List.eq_nil_iff_forall_not_mem.2 fun id hid => ?_
  have := (hw.mem_dueRows hnow id).2 hid
  rw [hnil] at this
  cases this

theorem Waiting.claim (hw : Waiting P t ids) (now : Instant) (chosen : List Int) :
    Waiting P (claim now chosen t) (ids.filter (· ∉ chosen)) := by
  refine ⟨hw.nodup.filter _, fun id hid => ?_, fun now' hnow' id row' hrow' => ?_⟩
  · obtain ⟨row, hrow⟩ := hw.rows id (List.mem_filter.1 hid).1
    rw [get?_claim, hrow]
    exact ⟨_, rfl⟩
  · rw [get?_claim] at hrow'
    obtain ⟨row, hrow, rfl⟩ := Option.map_eq_some_iff.1 hrow'
    rw [List.mem_filter, decide_eq_true_eq]
    by_cases hid : id ∈ chosen
    · simp [hid, due, EmailMessageStatus.asI32]
    · simp only [hid, if_false, not_false_eq_true, and_true]
      exact hw.due_iff now' hnow' id row hrow

/-- What waits is what is picked now and what waits afterwards. -/
theorem Waiting.split (hw : Waiting P t ids) {now : Instant} (hnow : P now) {chosen : List Int}
    (hold : OldestDue now t chosen) : (chosen ++ ids.filter (· ∉ chosen)).Perm ids := by
  have hpicked : (ids.filter (· ∈ chosen)).Perm chosen := by
    refine (List.perm_ext_iff_of_nodup (hw.nodup.filter _) hold.1).2 fun id => ?_
    rw [List.mem_filter, decide_eq_true_eq]
    exact ⟨And.right, fun hid => ⟨hw.chosen_subset hnow hold id hid, hid⟩⟩
  have hparts := List.filter_append_perm (fun id => decide (id ∈ chosen)) ids
  have hneg : (ids.filter fun id => !decide (id ∈ chosen)) = ids.filter (· ∉ chosen) := by
    congr 1
    funext id
    exact (decide_not).symm
  rw [hneg] at hparts
  exact (hpicked.symm.append_right _).trans hparts

/-- Repeated until it returns 0, the batch step pushes the mail of each row that
waited, once. -/
theorem fetchUntilEmpty_perm {envs : List BatchEnv} {db db' : Db} {pushed : List EmailRequest}
    (henvs : ∀ env ∈ envs, P env.now) (hw : Waiting P db.requests ids)
    (h : fetchUntilEmpty envs db = some (db', pushed)) :
    pushed.Perm (ids.filterMap db.mail) := by
  induction envs generalizing db ids pushed with
  | nil => cases h
  | cons env envs ih =>
    have hnow := henvs env (by simp)
    simp only [fetchUntilEmpty] at h
    split at h
    · rename_i hcall
      obtain ⟨rfl, rfl⟩ := by simpa using h
      obtain ⟨hold, hlen, -, hpushed⟩ := fetchAndProcessBatch_spec hcall rfl
      have hnil : env.chosen = [] := List.length_eq_zero_iff.1 hlen.symm
      rw [hnil] at hold hpushed
      rw [hw.eq_nil hnow hold]
      exact hpushed
    · rename_i db₁ pushed₁ n hne hcall
      obtain ⟨⟨db₂, rest⟩, hrest, heq⟩ := Option.map_eq_some_iff.1 h
      obtain ⟨rfl, rfl⟩ := by simpa using heq
      obtain ⟨hold, -, rfl, hpushed⟩ := fetchAndProcessBatch_spec hcall rfl
      have hrest := ih (fun env' h => henvs env' (by simp [h])) (hw.claim env.now env.chosen) hrest
      rw [mail_claim] at hrest
      refine (hpushed.append hrest).trans ?_
      rw [← List.filterMap_append]
      exact (hw.split hnow hold).filterMap _
    · cases h

/-- And it does come to 0, whatever the times of the calls are. -/
theorem exists_fetchUntilEmpty {db : Db} (times : ℕ → Instant) (htimes : ∀ k, P (times k))
    (hw : Waiting P db.requests ids)
    (hdec : ∀ id ∈ ids, ∀ row, db.requests.get? id = some row →
      ∃ x, decodeI32 row.contentId = some x) :
    ∃ envs r, (∀ env ∈ envs, env.FailureFree) ∧
      (∀ i env, envs[i]? = some env → env.now = times i) ∧ fetchUntilEmpty envs db = some r := by
  obtain ⟨n, hn⟩ : ∃ n, ids.length ≤ n := ⟨_, le_refl _⟩
  induction n using Nat.strong_induction_on generalizing db ids times with
  | _ n ih =>
    obtain ⟨chosen, hold⟩ := exists_oldestDue (times 0) db.requests
    have hsub := hw.chosen_subset (htimes 0) hold
    obtain ⟨env, res, hnow, hchosen, henv, hcall⟩ := exists_call hold
    obtain ⟨k, hres⟩ := (Fetched.of_call hcall).exists_ok henv fun id hid =>
      hdec id (hsub id (hchosen ▸ hid))
    obtain ⟨hold, hlen, hdb, -⟩ := fetchAndProcessBatch_spec hcall hres
    obtain ⟨db₁, pushed, result⟩ := res
    obtain rfl : result = .ok k := hres
    cases k with
    | zero =>
      refine ⟨[env], (db₁, pushed), by simpa using henv, ?_, by simp [fetchUntilEmpty, hcall]⟩
      intro i env' hi
      obtain ⟨rfl, rfl⟩ : i = 0 ∧ env = env' := by simpa [List.getElem?_singleton] using hi
      exact hnow
    | succ k =>
      rw [hnow] at hold hdb
      dsimp only at hdb
      have hsplit := (hw.split (htimes 0) hold).length_eq
      rw [List.length_append] at hsplit
      have hw' : Waiting P db₁.requests (ids.filter (· ∉ env.chosen)) := by
        rw [hdb]
        exact hw.claim (times 0) env.chosen
      have hdec' : ∀ id ∈ ids.filter (· ∉ env.chosen), ∀ row, db₁.requests.get? id = some row →
          ∃ x, decodeI32 row.contentId = some x := by
        intro id hid row' hrow'
        rw [hdb] at hrow'
        obtain ⟨row, hrow, hc⟩ := claim_contentId hrow'
        rw [hc]
        exact hdec id (List.mem_filter.1 hid).1 row hrow
      obtain ⟨envs, r, hfree, hnows, hrest⟩ := ih (ids.filter (· ∉ env.chosen)).length
        (by omega) (fun k => times (k + 1)) (fun k => htimes (k + 1)) hw' hdec' (le_refl _)
      refine ⟨env :: envs, (r.1, pushed ++ r.2), ?_, ?_, ?_⟩
      · intro env' h
        rcases List.mem_cons.1 h with rfl | h
        · exact henv
        · exact hfree env' h
      · intro i env' hi
        cases i with
        | zero =>
          obtain rfl : env = env' := by simpa using hi
          exact hnow
        | succ i => exact hnows i env' (by simpa using hi)
      · simp only [fetchUntilEmpty, hcall]
        rw [hrest]
        rfl

end Ses
