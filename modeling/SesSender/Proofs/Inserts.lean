import SesSender.Proofs.LifeCycle
import SesSender.Proofs.Saving
import SesSender.Spec.Inserts

/-! `save_batch` on a connection: all or nothing, and every returned id names the
row its request was stored in. -/

namespace Ses

open Calendar Chunks Transaction

/-! ## The program and the function -/

section SaveBatch

variable {ρ α : Type} {insert : ℕ → List ρ → Table α → Option (Table α)} {setId : Int32 → ρ → ρ}
  {F : TxFaults}

/-- What a computation leaves, as `saveAll` speaks of it. -/
def tableOf (r : List ρ × Store α) : List ρ × Table α := (r.1, r.2.table)

/-- The loop over the chunks, run inside the transaction, does what `saveChunks` says. -/
theorem insertChunks_computes (k : ℕ) (cs : List (List ρ)) (s : Store α) (acc : List ρ) :
    ∃ r, (insertChunks insert setId F k cs acc).Computes s r ∧
      saveChunks insert setId F k cs s.table acc = r.map tableOf := by
  induction cs generalizing k s acc with
  | nil => exact ⟨.ok (acc, s), Program.computes_pure acc s, rfl⟩
  | cons chunk rest ih =>
    have hinsert : (executeInsert insert F k chunk).Computes s _ := Program.computes_statement _ s
    unfold saveChunks insertChunks
    by_cases hfault : F.insert k = true
    · rw [if_pos hfault] at hinsert ⊢
      exact ⟨_, hinsert.bind_error _, rfl⟩
    · rw [if_neg hfault] at hinsert ⊢
      cases ht : insert k chunk s.table with
      | none =>
        rw [ht] at hinsert
        exact ⟨_, hinsert.bind_error _, rfl⟩
      | some t =>
        rw [ht] at hinsert
        have hselect : (selectLastId F k).Computes (⟨t, t.seq⟩ : Store α) _ :=
          Program.computes_statement _ _
        by_cases hlast : F.lastId k = true
        · rw [if_pos hlast] at hselect
          exact ⟨_, hinsert.bind_ok (hselect.bind_error _), if_pos hlast⟩
        · rw [if_neg hlast] at hselect
          obtain ⟨r, hr, heq⟩ := ih (k + 1) ⟨t, t.seq⟩ (acc ++ chunk.mapIdx fun i c =>
            setId (asI32 (t.seq - ((chunk.length - 1 - i : ℕ) : Int))) c)
          exact ⟨r, hinsert.bind_ok (hselect.bind_ok hr), (if_neg hlast).trans heq⟩

/-- Run on a connection, `save_batch` commits what `saveAll` returns, or nothing. -/
theorem saveBatchTx_eq (xs : List ρ) (s : Store α) :
    ∃ r, saveBatchTx insert setId F xs (Conn.idle s) = Program.outcome s r ∧
      saveAll insert setId F xs s.table = r.map tableOf := by
  unfold saveBatchTx saveAll
  by_cases hemp : xs.isEmpty = true
  · rw [if_pos hemp, if_pos hemp]
    exact ⟨.ok ([], s), rfl, rfl⟩
  · rw [if_neg hemp, if_neg hemp]
    by_cases hbegin : F.beginTx = true
    · rw [if_pos hbegin, if_pos hbegin]
      exact ⟨.error .database, rfl, rfl⟩
    · rw [if_neg hbegin, if_neg hbegin]
      obtain ⟨r, hr, heq⟩ :=
        @insertChunks_computes ρ α insert setId F 0 (chunks BATCH_INSERT_SIZE xs) s []
      rw [heq]
      by_cases hcommit : F.commit = true
      · rw [if_pos hcommit]
        refine ⟨_, hr.transaction_fault _, ?_⟩
        cases r with
        | ok r => exact if_pos hcommit
        | error e => rfl
      · rw [if_neg hcommit]
        refine ⟨r, hr.transaction, ?_⟩
        cases r with
        | ok r => exact if_neg hcommit
        | error e => rfl

theorem saveBatchTx_ok {xs results : List ρ} {s : Store α} {t : Table α}
    (h : saveAll insert setId F xs s.table = .ok (results, t)) :
    ∃ last, saveBatchTx insert setId F xs (Conn.idle s) =
      (.ok results, Conn.idle ⟨t, last⟩) := by
  obtain ⟨r, hrun, heq⟩ := @saveBatchTx_eq ρ α insert setId F xs s
  rw [h] at heq
  cases r with
  | error e => cases heq
  | ok r =>
    obtain ⟨rfl, rfl⟩ := Prod.mk.inj (Except.ok.inj heq)
    exact ⟨r.2.lastInsertRowid, hrun⟩

theorem saveBatchTx_error {xs : List ρ} {s : Store α} {e : SqlxError}
    (h : saveAll insert setId F xs s.table = .error e) :
    saveBatchTx insert setId F xs (Conn.idle s) = (.error e, Conn.idle s) := by
  obtain ⟨r, hrun, heq⟩ := @saveBatchTx_eq ρ α insert setId F xs s
  rw [h] at heq
  cases r with
  | error e' => rw [hrun, Except.error.inj heq]; rfl
  | ok r => cases heq

theorem saveBatchTx_isOk_iff {xs : List ρ} {s : Store α} :
    (∃ results, (saveBatchTx insert setId F xs (Conn.idle s)).1 = .ok results) ↔
      ∃ r, saveAll insert setId F xs s.table = .ok r := by
  cases hsave : saveAll insert setId F xs s.table with
  | error e =>
    rw [saveBatchTx_error hsave]
    simp
  | ok r =>
    obtain ⟨last, hrun⟩ := saveBatchTx_ok hsave
    rw [hrun]
    exact iff_of_true ⟨_, rfl⟩ ⟨r, rfl⟩

/-- Each input was added as one row under its own id, above all earlier ids, and
the results are the inputs with these ids. -/
structure Inserted (holds : ρ → α → Prop) (setId : Int32 → ρ → ρ) (xs results : List ρ)
    (t t' : Table α) (ids : List Int32) : Prop where
  results_eq : results = List.zipWith setId ids xs
  length : ids.length = xs.length
  increasing : (ids.map Int32.toInt).Pairwise (· < ·)
  above : ∀ id ∈ ids, t.seq < id.toInt ∧ ∀ old row, t.get? old = some row → old < id.toInt
  row : ∀ (i : ℕ) id x, ids[i]? = some id → xs[i]? = some x →
    ∃ row, t'.get? id.toInt = some row ∧ holds x row
  kept : ∀ id row, t.get? id = some row → t'.get? id = some row
  new : ∀ id row, t'.get? id = some row → t.get? id = some row ∨ ∃ x ∈ ids, x.toInt = id
  count : t'.rows.length = t.rows.length + xs.length

theorem inserted_append {holds : ρ → α → Prop} {xs : List ρ} {rows : List α} {t : Table α}
    (hrows : List.Forall₂ holds xs rows) (hfit : t.seq + xs.length ≤ i32Max) :
    Inserted holds setId xs (xs.mapIdx fun i x => setId (asI32 (t.seq + 1 + i)) x) t
      (t.append rows) ((List.range xs.length).map fun i : ℕ => asI32 (t.seq + 1 + i)) := by
  have h0 := t.seq_nonneg
  have hlen := hrows.length_eq
  have hid : ∀ i : ℕ, i < xs.length → (asI32 (t.seq + 1 + i)).toInt = t.seq + 1 + i :=
    fun i hi => asI32_toInt (by omega) (by omega)
  constructor
  · apply List.ext_getElem (by simp)
    intro i h1 h2
    simp
  · simp
  · rw [List.map_map, List.pairwise_map]
    refine List.pairwise_lt_range.imp_of_mem fun {i j} hi hj hlt => ?_
    simp only [Function.comp_apply, hid i (List.mem_range.1 hi), hid j (List.mem_range.1 hj)]
    omega
  · intro id hmem
    obtain ⟨i, hi, rfl⟩ := List.mem_map.1 hmem
    rw [hid i (List.mem_range.1 hi)]
    refine ⟨by omega, fun old row hold => ?_⟩
    have := Table.le_seq_of_get? hold
    omega
  · intro i id x hi hx
    obtain ⟨hlt, -⟩ := List.getElem?_eq_some_iff.1 hx
    obtain rfl : asI32 (t.seq + 1 + i) = id := by simpa [hlt] using hi
    obtain ⟨row, hrow, hholds⟩ := Lists.forall₂_getElem?_left hrows hx
    exact ⟨row, by rw [hid i hlt, Table.get?_append_new, hrow], hholds⟩
  · intro id row hrow
    rw [Table.get?_append_old (Table.le_seq_of_get? hrow), hrow]
  · intro id row hrow
    rcases Table.get?_append_cases hrow with hold | ⟨i, rfl, hi⟩
    · exact Or.inl hold
    · have hlt : i < xs.length := by
        rw [hlen]
        exact (List.getElem?_eq_some_iff.1 hi).1
      exact Or.inr ⟨_, List.mem_map_of_mem (List.mem_range.2 hlt), hid i hlt⟩
  · simp [Table.append, hlen]

/-- An error leaves the table; otherwise every input has its row. -/
theorem saveBatchTx_cases {holds : ρ → α → Prop}
    (hinsert : ∀ {k chunk t t'}, insert k chunk t = some t' →
      ∃ rows, t' = t.append rows ∧ List.Forall₂ holds chunk rows)
    (xs : List ρ) (s : Store α) (hfit : s.table.seq + xs.length ≤ i32Max) :
    ∃ s', (saveBatchTx insert setId F xs (Conn.idle s)).2 = Conn.idle s' ∧
      ((∃ e, (saveBatchTx insert setId F xs (Conn.idle s)).1 = .error e ∧ s'.table = s.table) ∨
        ∃ results ids, (saveBatchTx insert setId F xs (Conn.idle s)).1 = .ok results ∧
          Inserted holds setId xs results s.table s'.table ids) := by
  cases hsave : saveAll insert setId F xs s.table with
  | error e =>
    rw [saveBatchTx_error hsave]
    exact ⟨s, rfl, Or.inl ⟨e, rfl, rfl⟩⟩
  | ok r =>
    obtain ⟨results, t'⟩ := r
    obtain ⟨last, hrun⟩ := saveBatchTx_ok hsave
    rw [hrun]
    obtain ⟨rows, rfl, hrows, rfl⟩ := saveAll_spec hinsert hsave
    exact ⟨_, rfl, Or.inr ⟨_, _, rfl, inserted_append hrows hfit⟩⟩

end SaveBatch

/-! ## The two calls -/

/-- The row holds the fields of the content, and the time of its `INSERT`. -/
def ContentStored (clock : ℕ → Instant) (c : EmailContent) (row : ContentRow) : Prop :=
  ∃ k, row = EmailContent.toRow (clock k) c

/-- The row holds the fields of the request, as its `INSERT` binds them. -/
def RequestStored (E : Env) (clock : ℕ → Instant) (req : EmailRequest) (row : RequestRow) : Prop :=
  ∃ k, EmailRequest.toRow E (clock k) req = some row

theorem EmailContent.insertChunk_stored {clock : ℕ → Instant} {k : ℕ} {chunk : List EmailContent}
    {t t' : Table ContentRow} (h : EmailContent.insertChunk clock k chunk t = some t') :
    ∃ rows, t' = t.append rows ∧ List.Forall₂ (ContentStored clock) chunk rows :=
  ⟨_, Table.insert?_eq_some h,
    List.forall₂_map_right_iff.2 (List.forall₂_same.2 fun _ _ => ⟨k, rfl⟩)⟩

theorem EmailRequest.insertChunk_stored {E : Env} {contents : Table ContentRow}
    {clock : ℕ → Instant} {k : ℕ} {chunk : List EmailRequest} {t t' : Table RequestRow}
    (h : EmailRequest.insertChunk E contents clock k chunk t = some t') :
    ∃ rows, t' = t.append rows ∧ List.Forall₂ (RequestStored E clock) chunk rows := by
  obtain ⟨rows, ht', hrows⟩ := EmailRequest.insertChunk_spec h
  exact ⟨rows, ht', hrows.imp fun _ _ hstores => hstores.1⟩

/-- Either `save_batch` returns an error and the table is as it was, or it returns
its inputs with the ids of the rows they were stored in, one new row each. It
returns them exactly when no statement of it fails and the rows it binds are
accepted: the columns are set, and the content exists where that is checked. -/
theorem save_batch_all_or_nothing :
    (∀ E contents clock F (requests : List EmailRequest) (s : Store RequestRow),
      s.table.seq + requests.length ≤ i32Max →
      ∃ s', (EmailRequest.saveBatchTx E contents clock F requests (Conn.idle s)).2 =
          Conn.idle s' ∧
        ((∃ e, (EmailRequest.saveBatchTx E contents clock F requests (Conn.idle s)).1 =
            .error e ∧ s'.table = s.table) ∨
          ∃ results ids, (EmailRequest.saveBatchTx E contents clock F requests (Conn.idle s)).1 =
              .ok results ∧
            Inserted (RequestStored E clock) (fun id req => { req with id := some id }) requests
              results s.table s'.table ids) ∧
        ((∃ results, (EmailRequest.saveBatchTx E contents clock F requests (Conn.idle s)).1 =
            .ok results) ↔
          requests = [] ∨ F.Spares requests.length ∧
            ∀ req ∈ requests, req.Insertable E contents)) ∧
    ∀ clock F (contents : List EmailContent) (s : Store ContentRow),
      s.table.seq + contents.length ≤ i32Max →
      ∃ s', (EmailContent.saveBatchTx clock F contents (Conn.idle s)).2 = Conn.idle s' ∧
        ((∃ e, (EmailContent.saveBatchTx clock F contents (Conn.idle s)).1 = .error e ∧
            s'.table = s.table) ∨
          ∃ results ids, (EmailContent.saveBatchTx clock F contents (Conn.idle s)).1 =
              .ok results ∧
            Inserted (ContentStored clock) (fun id c => { c with id := some id }) contents
              results s.table s'.table ids) ∧
        ((∃ results, (EmailContent.saveBatchTx clock F contents (Conn.idle s)).1 =
            .ok results) ↔ contents = [] ∨ F.Spares contents.length) := by
  have hmax : i32Max ≤ maxRowid := by decide
  refine ⟨fun E contents clock F requests s hfit => ?_, fun clock F contents s hfit => ?_⟩
  · obtain ⟨s', hidle, hcases⟩ := saveBatchTx_cases (F := F)
      (@EmailRequest.insertChunk_stored E contents clock) requests s hfit
    refine ⟨s', hidle, hcases, saveBatchTx_isOk_iff.trans ?_⟩
    refine EmailRequest.saveBatch_isOk_iff.trans (or_congr_right (and_congr_right fun _ => ?_))
    exact and_iff_left (hfit.trans hmax)
  · obtain ⟨s', hidle, hcases⟩ := saveBatchTx_cases (F := F)
      (@EmailContent.insertChunk_stored clock) contents s hfit
    refine ⟨s', hidle, hcases, saveBatchTx_isOk_iff.trans ?_⟩
    exact EmailContent.saveBatch_isOk_iff.trans (or_congr_right (and_iff_left (hfit.trans hmax)))

/-- More contents than one chunk holds, into a table that is not empty. -/
theorem save_batch_all_or_nothing_sample :
    ∃ (contents : List EmailContent) (s : Store ContentRow) (s' : Store ContentRow)
      (results : List EmailContent) (ids : List Int32),
      contents.length = BATCH_INSERT_SIZE + 1 ∧ s.table.rows.length = 1 ∧
      EmailContent.saveBatchTx (fun _ => newYear) .none contents (Conn.idle s) =
        (.ok results, Conn.idle s') ∧
      Inserted (ContentStored fun _ => newYear) (fun id c => { c with id := some id }) contents
        results s.table s'.table ids := by
  obtain ⟨contents, hlen⟩ : ∃ contents : List EmailContent,
      contents.length = BATCH_INSERT_SIZE + 1 :=
    ⟨List.replicate (BATCH_INSERT_SIZE + 1) ⟨none, "Hello", ""⟩, List.length_replicate⟩
  let s : Store ContentRow := ⟨Table.empty.append [⟨"Hello", "", newYear.stamp⟩], 1⟩
  have hfit : s.table.seq + contents.length ≤ i32Max := by
    rw [hlen]
    decide
  obtain ⟨s', hs', hcases, hiff⟩ :=
    save_batch_all_or_nothing.2 (fun _ => newYear) .none contents s hfit
  obtain ⟨saved, hsaved⟩ := hiff.2 (Or.inr (TxFaults.spares_none _))
  rw [hsaved] at hcases
  rcases hcases with ⟨e, he, -⟩ | ⟨results, ids, hok, hins⟩
  · cases he
  · refine ⟨contents, s, s', results, ids, hlen, rfl, Prod.ext ?_ hs', hins⟩
    exact hsaved.trans hok

end Ses
