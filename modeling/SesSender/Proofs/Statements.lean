import SesSender.Lib.Lists
import SesSender.Spec.Messages
import SesSender.Spec.Receiver
import SesSender.Spec.Scheduler

/-! What each statement does to its table and what it returns. Every later
proof reads a statement through the lemmas of this file. -/

namespace Ses

open Calendar Chunks

/-! ## Batch inserts -/

section SaveBatch

variable {ρ α : Type} {insert : ℕ → List ρ → Table α → Option (Table α)} {setId : Int32 → ρ → ρ}
  {R : ρ → α → Prop}

/-- The ids counted back from the last rowid of a chunk are the rowids it was given. -/
theorem countBack_eq (setId : Int32 → ρ → ρ) (seq : Int) (chunk : List ρ) :
    (chunk.mapIdx fun i c =>
      setId (asI32 (seq + chunk.length - ((chunk.length - 1 - i : ℕ) : Int))) c) =
    chunk.mapIdx fun i c => setId (asI32 (seq + 1 + i)) c := by
  apply List.ext_getElem (by simp)
  intro i h1 h2
  have hi : i < chunk.length := by simpa using h1
  simp only [List.getElem_mapIdx]
  rw [show seq + chunk.length - ((chunk.length - 1 - i : ℕ) : Int) = seq + 1 + i by omega]

theorem saveChunks_within {n : ℕ} {F : TxFaults} {k : ℕ} {cs : List (List ρ)} {t t' : Table α}
    {acc results : List ρ} (hn : k + cs.length ≤ n)
    (hinsert : ∀ {k chunk t t'}, k < n → insert k chunk t = some t' →
      ∃ rows, t' = t.append rows ∧ List.Forall₂ R chunk rows)
    (h : saveChunks insert setId F k cs t acc = .ok (results, t')) :
    ∃ rows, t' = t.append rows ∧ List.Forall₂ R cs.flatten rows ∧
      results = acc ++ cs.flatten.mapIdx fun i c => setId (asI32 (t.seq + 1 + i)) c := by
  induction cs generalizing k t acc with
  | nil =>
    simp only [saveChunks, Except.ok.injEq, Prod.mk.injEq] at h
    obtain ⟨rfl, rfl⟩ := h
    exact ⟨[], (t.append_nil).symm, .nil, by simp⟩
  | cons chunk rest ih =>
    rw [List.length_cons] at hn
    simp only [saveChunks] at h
    split at h
    · cases h
    · split at h
      · cases h
      · rename_i t₁ ht₁
        split at h
        · cases h
        · obtain ⟨rows₁, rfl, hR₁⟩ := hinsert (by omega) ht₁
          obtain ⟨rows, rfl, hR, rfl⟩ := ih (by omega) h
          have hlen : rows₁.length = chunk.length := hR₁.length_eq.symm
          refine ⟨rows₁ ++ rows, Table.append_append t rows₁ rows, ?_, ?_⟩
          · exact List.rel_append hR₁ hR
          · rw [List.flatten_cons, List.mapIdx_append, Table.seq_append, hlen, countBack_eq,
              List.append_assoc]
            congr 2
            apply List.ext_getElem (by simp)
            intro i h1 h2
            simp only [List.getElem_mapIdx]
            rw [show t.seq + chunk.length + 1 + i = t.seq + 1 + ((i + chunk.length : ℕ) : Int) by
              omega]

theorem length_chunks_le (xs : List ρ) : (chunks BATCH_INSERT_SIZE xs).length ≤ xs.length := by
  by_contra hlt
  have hpiece := (lt_length_chunks (n := BATCH_INSERT_SIZE) (by decide)).1 (Nat.lt_of_not_le hlt)
  have hmul := Nat.le_mul_of_pos_right xs.length (show 0 < BATCH_INSERT_SIZE by decide)
  omega

/-- A batch insert that returns has added one row per input, and the `i`-th
result carries the rowid of the `i`-th row. There are no more `INSERT`s than inputs. -/
theorem saveAll_within {F : TxFaults} {xs : List ρ} {t t' : Table α} {results : List ρ}
    (hinsert : ∀ {k chunk t t'}, k < xs.length → insert k chunk t = some t' →
      ∃ rows, t' = t.append rows ∧ List.Forall₂ R chunk rows)
    (h : saveAll insert setId F xs t = .ok (results, t')) :
    ∃ rows, t' = t.append rows ∧ List.Forall₂ R xs rows ∧
      results = xs.mapIdx fun i c => setId (asI32 (t.seq + 1 + i)) c := by
  unfold saveAll at h
  split at h
  · rename_i hxs
    obtain rfl : xs = [] := by simpa using hxs
    simp only [Except.ok.injEq, Prod.mk.injEq] at h
    obtain ⟨rfl, rfl⟩ := h
    exact ⟨[], (t.append_nil).symm, .nil, rfl⟩
  · split at h
    · cases h
    · split at h
      · cases h
      · rename_i r hr
        split at h
        · cases h
        · obtain rfl := Except.ok.inj h
          have hlen : 0 + (chunks BATCH_INSERT_SIZE xs).length ≤ xs.length := by
            rw [Nat.zero_add]
            exact length_chunks_le xs
          have := saveChunks_within hlen hinsert hr
          rwa [flatten_chunks (by decide), List.nil_append] at this

theorem saveAll_spec
    (hinsert : ∀ {k chunk t t'}, insert k chunk t = some t' →
      ∃ rows, t' = t.append rows ∧ List.Forall₂ R chunk rows)
    {F : TxFaults} {xs : List ρ} {t t' : Table α} {results : List ρ}
    (h : saveAll insert setId F xs t = .ok (results, t')) :
    ∃ rows, t' = t.append rows ∧ List.Forall₂ R xs rows ∧
      results = xs.mapIdx fun i c => setId (asI32 (t.seq + 1 + i)) c :=
  saveAll_within (fun _ => hinsert) h

end SaveBatch

theorem EmailContent.saveBatch_spec {clock : ℕ → Instant} {F : TxFaults}
    {contents results : List EmailContent} {t t' : Table ContentRow}
    (h : EmailContent.saveBatch clock F contents t = .ok (results, t')) :
    ∃ rows, t' = t.append rows ∧
      List.Forall₂ (fun c row => ∃ now, row = EmailContent.toRow now c) contents rows ∧
      results = contents.mapIdx fun i c => { c with id := some (asI32 (t.seq + 1 + i)) } := by
  apply saveAll_spec _ h
  intro k chunk t t' h
  refine ⟨_, Table.insert?_eq_some h, ?_⟩
  exact List.forall₂_map_right_iff.2 (List.forall₂_same.2 fun c _ => ⟨clock k, rfl⟩)

theorem EmailRequest.toRow_eq_some {E : Env} {now : Instant} {req : EmailRequest}
    {row : RequestRow} : req.toRow E now = some row ↔ ∃ topicId contentId,
      req.topicId = some topicId ∧ req.contentId = some contentId ∧ row =
        { topicId, contentId := contentId.toInt, messageId := none, email := req.email
          scheduledAt := parseScheduledAt E now req.scheduledAt, status := req.status
          error := none, createdAt := now.stamp, updatedAt := now.stamp } := by
  refine ⟨?_, ?_⟩
  · intro h
    unfold EmailRequest.toRow at h
    split at h
    · rename_i topicId contentId ht hc
      exact ⟨topicId, contentId, ht, hc, (Option.some.inj h).symm⟩
    · cases h
  · rintro ⟨topicId, contentId, ht, hc, rfl⟩
    simp only [EmailRequest.toRow, ht, hc]

/-- A row as `save_batch` writes it: the columns of the request, and nothing
known yet about its delivery. -/
def Stores (E : Env) (contents : Table ContentRow) (clock : ℕ → Instant) (req : EmailRequest)
    (row : RequestRow) : Prop :=
  (∃ k, EmailRequest.toRow E (clock k) req = some row) ∧
    (E.foreignKeys = true → contents.get? row.contentId ≠ none)

theorem Stores.decodes {E : Env} {contents : Table ContentRow} {clock : ℕ → Instant}
    {req : EmailRequest} {row : RequestRow} (h : Stores E contents clock req row) :
    ∃ x, decodeI32 row.contentId = some x := by
  obtain ⟨⟨now, hrow⟩, -⟩ := h
  obtain ⟨_, _, _, _, rfl⟩ := EmailRequest.toRow_eq_some.1 hrow
  exact ⟨_, decodeI32_toInt _⟩

/-- The rows of one `INSERT` are written at one time. -/
theorem EmailRequest.insertChunk_rows {E : Env} {contents : Table ContentRow} {clock : ℕ → Instant}
    {k : ℕ} {chunk : List EmailRequest} {t t' : Table RequestRow}
    (h : EmailRequest.insertChunk E contents clock k chunk t = some t') :
    ∃ rows, t' = t.append rows ∧ List.Forall₂ (fun req row =>
      EmailRequest.toRow E (clock k) req = some row ∧
        (E.foreignKeys = true → contents.get? row.contentId ≠ none)) chunk rows := by
  unfold EmailRequest.insertChunk at h
  obtain ⟨rows, hrows, h⟩ := Option.bind_eq_some_iff.1 h
  split at h
  · cases h
  · rename_i hfk
    refine ⟨rows, Table.insert?_eq_some h, ?_⟩
    have hall := Lists.mapM_eq_some.1 hrows
    rw [List.forall₂_iff_zip] at hall ⊢
    refine ⟨hall.1, fun {req row} hmem => ⟨hall.2 hmem, fun hon hnone => hfk ?_⟩⟩
    simp only [hon, Bool.true_and, List.any_eq_true]
    exact ⟨row, (List.of_mem_zip hmem).2, by simp [hnone]⟩

theorem EmailRequest.insertChunk_spec {E : Env} {contents : Table ContentRow} {clock : ℕ → Instant}
    {k : ℕ} {chunk : List EmailRequest} {t t' : Table RequestRow}
    (h : EmailRequest.insertChunk E contents clock k chunk t = some t') :
    ∃ rows, t' = t.append rows ∧ List.Forall₂ (Stores E contents clock) chunk rows := by
  obtain ⟨rows, ht', hrows⟩ := EmailRequest.insertChunk_rows h
  exact ⟨rows, ht', hrows.imp fun _ _ hrow => ⟨⟨k, hrow.1⟩, hrow.2⟩⟩

theorem EmailRequest.saveBatch_spec {E : Env} {contents : Table ContentRow} {clock : ℕ → Instant}
    {F : TxFaults} {requests results : List EmailRequest} {t t' : Table RequestRow}
    (h : EmailRequest.saveBatch E contents clock F requests t = .ok (results, t')) :
    ∃ rows, t' = t.append rows ∧ List.Forall₂ (Stores E contents clock) requests rows ∧
      results = requests.mapIdx fun i r => { r with id := some (asI32 (t.seq + 1 + i)) } :=
  saveAll_spec EmailRequest.insertChunk_spec h

/-- A row that was not there before the call stores one of its requests, at the
time of one of its `INSERT`s. -/
theorem EmailRequest.saveBatch_new {E : Env} {contents : Table ContentRow} {clock : ℕ → Instant}
    {F : TxFaults} {requests results : List EmailRequest} {t t' : Table RequestRow}
    (h : EmailRequest.saveBatch E contents clock F requests t = .ok (results, t')) {id : Int}
    {row : RequestRow} (hrow : t'.get? id = some row) : t.get? id = some row ∨
      t.get? id = none ∧ ∃ req ∈ requests, ∃ k < requests.length, EmailRequest.toRow E (clock k) req = some row := by
  have hinsert : ∀ {k chunk} {t t' : Table RequestRow}, k < requests.length →
      EmailRequest.insertChunk E contents clock k chunk t = some t' →
      ∃ rows, t' = t.append rows ∧ List.Forall₂ (fun req row =>
        ∃ k < requests.length, EmailRequest.toRow E (clock k) req = some row) chunk rows := by
    intro k chunk t t' hk h
    obtain ⟨rows, ht', hrows⟩ := EmailRequest.insertChunk_rows h
    exact ⟨rows, ht', hrows.imp fun _ _ hrow => ⟨k, hk, hrow.1⟩⟩
  obtain ⟨rows, rfl, hrows, -⟩ := saveAll_within hinsert h
  rcases Table.get?_append_cases hrow with hold | ⟨i, rfl, hi⟩
  · exact Or.inl hold
  · refine Or.inr ⟨Table.get?_of_seq_lt (by omega), ?_⟩
    exact Lists.forall₂_mem_right hrows (List.mem_of_getElem? hi)

/-- Ids counted from `seq + 1` on are rowids while they fit. -/
theorem rowids_mapIdx {seq : Int} (h0 : 0 ≤ seq) {requests : List EmailRequest}
    (hfit : seq + requests.length ≤ i32Max) :
    (requests.mapIdx fun i req =>
      ({ req with id := some (asI32 (seq + 1 + i)) } : EmailRequest)).filterMap (·.rowid) =
      (List.range requests.length).map fun k : ℕ => seq + 1 + k := by
  have hmap : (requests.mapIdx fun i req =>
      ({ req with id := some (asI32 (seq + 1 + i)) } : EmailRequest)).map (·.rowid) =
      (List.range requests.length).map fun k : ℕ => some (seq + 1 + k) := by
    apply List.ext_getElem (by simp)
    intro i h1 h2
    have hi : i < requests.length := by simpa using h1
    simp only [List.getElem_map, List.getElem_mapIdx, List.getElem_range, EmailRequest.rowid,
      Option.map_some]
    rw [asI32_toInt (by omega) (by omega)]
  have hcomp : ∀ l : List EmailRequest, l.filterMap (·.rowid) = (l.map (·.rowid)).filterMap id :=
    fun l => by rw [List.filterMap_map]; rfl
  rw [hcomp, hmap, List.filterMap_map]
  simp

/-- What `save_batch` returns carries the rowids of the new rows. -/
theorem save_rowids {E : Env} {contents : Table ContentRow} {clock : ℕ → Instant} {F : TxFaults}
    {requests saved : List EmailRequest} {r r' : Table RequestRow}
    (h : EmailRequest.saveBatch E contents clock F requests r = .ok (saved, r'))
    (hfit : r'.seq ≤ i32Max) :
    saved.filterMap (·.rowid) = (List.range requests.length).map fun k : ℕ => r.seq + 1 + k := by
  obtain ⟨rows, rfl, hst, rfl⟩ := EmailRequest.saveBatch_spec h
  have hlen := hst.length_eq
  rw [Table.seq_append] at hfit
  exact rowids_mapIdx r.seq_nonneg (by omega)

/-- Each request numbered from `seq + 1` on names the row it was stored in. -/
theorem EmailRequest.stored_row {E : Env} {contents : Table ContentRow} {clock : ℕ → Instant}
    {requests : List EmailRequest} {rows : List RequestRow} {t : Table RequestRow}
    (hst : List.Forall₂ (Stores E contents clock) requests rows) {req : EmailRequest}
    (hreq : req ∈ requests.mapIdx fun i r => { r with id := some (asI32 (t.seq + 1 + i)) }) :
    ∃ (id : Int) (row : RequestRow) (now : Instant), t.seq < id ∧ id ≤ (t.append rows).seq ∧
      req.id = some (asI32 id) ∧ (t.append rows).get? id = some row ∧
      EmailRequest.toRow E now req = some row := by
  obtain ⟨i, hi, rfl⟩ := List.mem_mapIdx.1 hreq
  obtain ⟨row, hrow, ⟨k, hto⟩, -⟩ :=
    Lists.forall₂_getElem?_left hst (List.getElem?_eq_getElem hi)
  have hlen := hst.length_eq
  refine ⟨t.seq + 1 + i, row, clock k, by omega, ?_, rfl, ?_, hto⟩
  · rw [Table.seq_append]; omega
  · rw [Table.get?_append_new, hrow]

/-- Each saved request names the row it was stored in. -/
theorem EmailRequest.saved_row {E : Env} {contents : Table ContentRow} {clock : ℕ → Instant}
    {F : TxFaults} {requests results : List EmailRequest} {t t' : Table RequestRow}
    (h : EmailRequest.saveBatch E contents clock F requests t = .ok (results, t'))
    {req : EmailRequest} (hreq : req ∈ results) :
    ∃ (id : Int) (row : RequestRow) (now : Instant), t.seq < id ∧ id ≤ t'.seq ∧
      req.id = some (asI32 id) ∧ t'.get? id = some row ∧
      EmailRequest.toRow E now req = some row := by
  obtain ⟨rows, rfl, hst, rfl⟩ := EmailRequest.saveBatch_spec h
  exact EmailRequest.stored_row hst hreq

/-- Each saved request is one of the inputs with an id. -/
theorem EmailRequest.mem_saved {E : Env} {contents : Table ContentRow} {clock : ℕ → Instant}
    {F : TxFaults} {requests results : List EmailRequest} {t t' : Table RequestRow}
    (h : EmailRequest.saveBatch E contents clock F requests t = .ok (results, t'))
    {req : EmailRequest} (hreq : req ∈ results) :
    ∃ id, ∃ req₀ ∈ requests, req = { req₀ with id := some id } := by
  obtain ⟨_, -, -, rfl⟩ := EmailRequest.saveBatch_spec h
  obtain ⟨i, hi, rfl⟩ := List.mem_mapIdx.1 hreq
  exact ⟨_, _, List.getElem_mem hi, rfl⟩

/-- What all the requests of a payload have in common. -/
theorem CreateMessageRequest.mem_requests {payload : CreateMessageRequest}
    {savedContents : List EmailContent} {req : EmailRequest}
    (h : req ∈ payload.requests savedContents) :
    req.status = payload.status ∧ req.scheduledAt = payload.scheduledAt ∧
      req.messageId = none ∧ req.error = none := by
  simp only [CreateMessageRequest.requests, List.mem_flatMap, List.mem_map] at h
  obtain ⟨p, -, email, -, rfl⟩ := h
  exact ⟨rfl, rfl, rfl, rfl⟩

/-! ## Updates -/

theorem get?_claim (now : Instant) (chosen : List Int) (t : Table RequestRow) (id : Int) :
    (claim now chosen t).get? id = (t.get? id).map fun row =>
      if id ∈ chosen then
        { row with status := EmailMessageStatus.processed.asI32, updatedAt := now.stamp }
      else row := by
  simp only [claim, Table.get?_update, decide_eq_true_eq]

theorem get?_stopTopic (now : Instant) (topicId : String) (t : Table RequestRow) (id : Int) :
    (EmailRequest.stopTopic now topicId t).get? id = (t.get? id).map fun row =>
      if row.status = EmailMessageStatus.created.asI32 ∧ row.topicId = topicId then
        { row with status := EmailMessageStatus.stopped.asI32, updatedAt := now.stamp }
      else row := by
  simp only [EmailRequest.stopTopic, Table.get?_update, decide_eq_true_eq]

theorem get?_update (now : Instant) (req : EmailRequest) (t : Table RequestRow) (id : Int) :
    (req.update now t).get? id = (t.get? id).map fun row =>
      if req.rowid = some id then
        { row with status := req.status, messageId := req.messageId, error := req.error
                   updatedAt := now.stamp }
      else row := by
  simp only [EmailRequest.update, Table.get?_update, decide_eq_true_eq]

theorem get?_rollbackToCreated (now : Instant) (reqs : List EmailRequest) (t : Table RequestRow)
    (id : Int) :
    (rollbackToCreated now (reqs.filterMap (·.id)) t).get? id = (t.get? id).map fun row =>
      if id ∈ reqs.filterMap (·.rowid) then
        { row with status := EmailMessageStatus.created.asI32, updatedAt := now.stamp }
      else row := by
  have hids : (reqs.filterMap (·.id)).map Int32.toInt = reqs.filterMap (·.rowid) := by
    rw [List.map_filterMap]; rfl
  unfold rollbackToCreated
  by_cases hemp : reqs.filterMap (·.id) = []
  · have hnil : reqs.filterMap (·.rowid) = [] := by rw [← hids, hemp]; rfl
    simp [hemp, hnil]
  · rw [if_neg (by simpa using hemp), hids]
    simp only [Table.get?_update, decide_eq_true_eq]

@[simp] theorem seq_rollbackToCreated (now : Instant) (ids : List Int32) (t : Table RequestRow) :
    (rollbackToCreated now ids t).seq = t.seq := by
  unfold rollbackToCreated
  split <;> rfl

/-! ## The two phases of the scheduler -/

theorem mem_dueRows {now : Instant} {t : Table RequestRow} {id : Int} {row : RequestRow} :
    (id, row) ∈ dueRows now t ↔ t.get? id = some row ∧ due now row := by
  rw [dueRows, List.mem_filter, Table.get?_eq_some]

theorem OldestDue.due {now : Instant} {t : Table RequestRow} {chosen : List Int}
    (h : OldestDue now t chosen) {id : Int} (hid : id ∈ chosen) :
    ∃ row, t.get? id = some row ∧ row.status = EmailMessageStatus.created.asI32 ∧
      row.scheduledAt ≤ now.stamp := by
  obtain ⟨⟨id', row⟩, hr, rfl⟩ := List.mem_map.1 (h.2.1 id hid)
  obtain ⟨hget, hdue⟩ := mem_dueRows.1 hr
  exact ⟨row, hget, of_decide_eq_true hdue⟩

/-- Every row stores a content id that reads back as an `i32`. -/
def Decodes (t : Table RequestRow) : Prop :=
  ∀ id row, t.get? id = some row → ∃ x, decodeI32 row.contentId = some x

/-- The claim leaves the content a row refers to. -/
theorem claim_contentId {t : Table RequestRow} {now : Instant} {chosen : List Int} {id : Int}
    {row' : RequestRow} (h : (claim now chosen t).get? id = some row') :
    ∃ row, t.get? id = some row ∧ row'.contentId = row.contentId := by
  rw [get?_claim] at h
  obtain ⟨row, hrow, rfl⟩ := Option.map_eq_some_iff.1 h
  exact ⟨row, hrow, by split <;> rfl⟩

theorem Decodes.claim {t : Table RequestRow} (h : Decodes t) (now : Instant) (chosen : List Int) :
    Decodes (claim now chosen t) := by
  intro id row' hrow'
  obtain ⟨row, hrow, hc⟩ := claim_contentId hrow'
  rw [hc]
  exact h id row hrow

theorem returning_ids {t : Table RequestRow} {chosen : List Int} {updated : List UpdatedRow}
    (h : returning t chosen = some updated) : updated.map (·.id) = chosen := by
  rw [← List.map_id chosen]
  refine (Lists.forall₂_map_eq (Lists.mapM_eq_some.1 h) ?_).symm
  intro id r hr
  obtain ⟨row, _, hr⟩ := Option.bind_eq_some_iff.1 hr
  obtain ⟨x, _, hr⟩ := Option.bind_eq_some_iff.1 hr
  rw [← Option.some.inj hr]
  rfl

theorem returning_isSome {t : Table RequestRow} {chosen : List Int}
    (hin : ∀ id ∈ chosen, ∃ row x, t.get? id = some row ∧ decodeI32 row.contentId = some x) :
    ∃ updated, returning t chosen = some updated := by
  apply Lists.mapM_isSome
  intro id hid
  obtain ⟨row, x, hrow, hx⟩ := hin id hid
  exact ⟨⟨id, row.topicId, x, row.email⟩, by simp [hrow, hx]⟩

theorem mem_joined {db : Db} {ids : List Int} {id : Int} {row : RequestRow} {c : ContentRow} :
    (id, row, c) ∈ joined db ids ↔
      id ∈ ids ∧ db.requests.get? id = some row ∧ db.contents.get? row.contentId = some c := by
  unfold joined
  rw [List.mem_filterMap, Table.get?_eq_some]
  refine ⟨?_, ?_⟩
  · rintro ⟨⟨id', row'⟩, hr, h⟩
    split at h
    · rename_i hid
      obtain ⟨c', hc, h⟩ := Option.map_eq_some_iff.1 h
      obtain ⟨rfl, rfl, rfl⟩ := by simpa using h
      exact ⟨hid, hr, hc⟩
    · cases h
  · rintro ⟨hid, hr, hc⟩
    exact ⟨(id, row), hr, by simp [hid, hc]⟩

theorem nodup_joined (db : Db) (ids : List Int) : ((joined db ids).map Prod.fst).Nodup := by
  apply List.Nodup.sublist _ db.requests.nodup
  unfold joined
  generalize db.requests.rows = rows
  induction rows with
  | nil => exact List.Sublist.refl _
  | cons r rows ih =>
    rw [List.filterMap_cons]
    split
    · exact List.Sublist.cons _ ih
    · rename_i b hb
      split at hb
      · obtain ⟨c, _, rfl⟩ := Option.map_eq_some_iff.1 hb
        exact List.Sublist.cons_cons _ ih
      · cases hb

/-- The decoded row of the JOIN stands for the joined one. -/
def Selected (j : Int × RequestRow × ContentRow) (row : ScheduledEmailRow) : Prop :=
  row.id = j.1 ∧ row.topicId = j.2.1.topicId ∧ row.contentId.toInt = j.2.1.contentId ∧
    row.email = j.2.1.email ∧ row.subject = j.2.2.subject ∧ row.content = j.2.2.content

theorem selectScheduled_spec {db : Db} {ids : List Int} {rows : List ScheduledEmailRow}
    (h : selectScheduled db ids = some rows) : List.Forall₂ Selected (joined db ids) rows := by
  refine (Lists.mapM_eq_some.1 h).imp ?_
  rintro ⟨id, row, c⟩ r hr
  obtain ⟨x, hx, hr⟩ := Option.bind_eq_some_iff.1 hr
  obtain rfl := Option.some.inj hr
  exact ⟨rfl, rfl, decodeI32_eq_some hx, rfl, rfl, rfl⟩

theorem selectScheduled_ids {db : Db} {ids : List Int} {rows : List ScheduledEmailRow}
    (h : selectScheduled db ids = some rows) :
    rows.map (·.id) = (joined db ids).map Prod.fst :=
  (Lists.forall₂_map_eq (selectScheduled_spec h) fun _ _ hr => hr.1.symm).symm

theorem selectScheduled_isSome {db : Db} (ids : List Int)
    (hdec : ∀ id ∈ ids, ∀ row, db.requests.get? id = some row →
      ∃ x, decodeI32 row.contentId = some x) : ∃ rows, selectScheduled db ids = some rows := by
  apply Lists.mapM_isSome
  rintro ⟨id, row, c⟩ hj
  obtain ⟨hid, hrow, -⟩ := mem_joined.1 hj
  obtain ⟨x, hx⟩ := hdec id hid row hrow
  exact ⟨⟨id, row.topicId, x, row.email, c.subject, c.content⟩, by simp [hx]⟩

end Ses
