import SesSender.Proofs.Statements

/-! The two loops of `create_message`: the batch insert, with what it needs to
succeed, and the hand-off. -/

namespace Ses

open Calendar Chunks

/-! ## When a batch insert succeeds -/

/-- No statement that a batch insert of `n` inputs runs fails. -/
structure TxFaults.Spares (F : TxFaults) (n : ℕ) : Prop where
  beginTx : F.beginTx = false
  chunk : ∀ k, k * BATCH_INSERT_SIZE < n → F.insert k = false ∧ F.lastId k = false
  commit : F.commit = false

theorem TxFaults.spares_none (n : ℕ) : TxFaults.none.Spares n := ⟨rfl, fun _ _ => ⟨rfl, rfl⟩, rfl⟩

section SaveBatch

variable {ρ α : Type} {insert : ℕ → List ρ → Table α → Option (Table α)} (setId : Int32 → ρ → ρ)
  {G : ρ → Prop}

/-- The `INSERT` of a chunk takes it exactly when all its inputs are good and
there are rowids for them. -/
structure Takes (insert : ℕ → List ρ → Table α → Option (Table α)) (G : ρ → Prop) : Prop where
  isSome_iff : ∀ k chunk t, (∃ t', insert k chunk t = some t') ↔
    (∀ x ∈ chunk, G x) ∧ t.seq + chunk.length ≤ maxRowid
  seq_eq : ∀ {k chunk t t'}, insert k chunk t = some t' → t'.seq = t.seq + chunk.length

theorem saveChunks_cons_isOk_iff {F : TxFaults} {k : ℕ} {chunk : List ρ} {rest : List (List ρ)}
    {t : Table α} {acc : List ρ} :
    (∃ r, saveChunks insert setId F k (chunk :: rest) t acc = .ok r) ↔
      (F.insert k = false ∧ F.lastId k = false) ∧ ∃ t', insert k chunk t = some t' ∧
        ∃ r, saveChunks insert setId F (k + 1) rest t' (acc ++ chunk.mapIdx fun i c =>
          setId (asI32 (t'.seq - ((chunk.length - 1 - i : ℕ) : Int))) c) = .ok r := by
  simp only [saveChunks]
  by_cases hfault : F.insert k = true
  · simp [hfault]
  · cases ht : insert k chunk t with
    | none => simp [hfault]
    | some t' =>
      by_cases hlast : F.lastId k = true
      · simp [hfault, hlast]
      · simp [hfault, hlast]

theorem saveChunks_isOk_iff (htakes : Takes insert G) (F : TxFaults) (k : ℕ) (cs : List (List ρ))
    (t : Table α) (acc : List ρ) :
    (∃ r, saveChunks insert setId F k cs t acc = .ok r) ↔
      (∀ i < cs.length, F.insert (k + i) = false ∧ F.lastId (k + i) = false) ∧
        (∀ x ∈ cs.flatten, G x) ∧ (cs = [] ∨ t.seq + cs.flatten.length ≤ maxRowid) := by
  induction cs generalizing k t acc with
  | nil => exact iff_of_true ⟨_, rfl⟩ ⟨by simp, by simp, Or.inl rfl⟩
  | cons chunk rest ih =>
    rw [saveChunks_cons_isOk_iff, List.flatten_cons, List.length_append]
    refine ⟨?_, ?_⟩
    · rintro ⟨hk, t', ht', r, hr⟩
      obtain ⟨hchunk, hroom⟩ := (htakes.isSome_iff k chunk t).1 ⟨t', ht'⟩
      obtain ⟨hrest, hgood, hfit⟩ := (ih (k + 1) t' _).1 ⟨r, hr⟩
      refine ⟨fun i hi => ?_, fun x hx => ?_, Or.inr ?_⟩
      · cases i with
        | zero => exact hk
        | succ i =>
          rw [show k + (i + 1) = k + 1 + i by omega]
          exact hrest i (by simpa using hi)
      · exact (List.mem_append.1 hx).elim (hchunk x) (hgood x)
      · rw [htakes.seq_eq ht'] at hfit
        rcases hfit with rfl | hfit
        · simpa using hroom
        · omega
    · rintro ⟨hfaults, hgood, hfit⟩
      have hfit : t.seq + (chunk.length + rest.flatten.length : ℕ) ≤ maxRowid :=
        hfit.resolve_left (by simp)
      obtain ⟨t', ht'⟩ := (htakes.isSome_iff k chunk t).2
        ⟨fun x hx => hgood x (List.mem_append_left _ hx), by omega⟩
      have hrest : ∀ i < rest.length, F.insert (k + 1 + i) = false ∧ F.lastId (k + 1 + i) = false := by
        intro i hi
        rw [show k + 1 + i = k + (i + 1) by omega]
        exact hfaults (i + 1) (by simpa using hi)
      have hroom : t'.seq + rest.flatten.length ≤ maxRowid := by
        rw [htakes.seq_eq ht']
        omega
      obtain ⟨r, hr⟩ := (ih (k + 1) t' _).2
        ⟨hrest, fun x hx => hgood x (List.mem_append_right _ hx), Or.inr hroom⟩
      exact ⟨hfaults 0 (by simp), t', ht', r, hr⟩

/-- A batch insert returns exactly when no statement of it fails, its inputs are
good and there are rowids for them. -/
theorem saveAll_isOk_iff (htakes : Takes insert G) (F : TxFaults) (xs : List ρ) (t : Table α) :
    (∃ r, saveAll insert setId F xs t = .ok r) ↔
      xs = [] ∨ F.Spares xs.length ∧ (∀ x ∈ xs, G x) ∧ t.seq + xs.length ≤ maxRowid := by
  by_cases hemp : xs = []
  · exact iff_of_true ⟨_, if_pos (by simpa using hemp)⟩ (Or.inl hemp)
  · have hflat := flatten_chunks (n := BATCH_INSERT_SIZE) (by decide) xs
    have hcs : chunks BATCH_INSERT_SIZE xs ≠ [] := by
      intro hnil
      rw [hnil] at hflat
      exact hemp hflat.symm
    have hchunks := saveChunks_isOk_iff setId htakes F 0 (chunks BATCH_INSERT_SIZE xs) t []
    rw [hflat] at hchunks
    have hcall : (∃ r, saveAll insert setId F xs t = .ok r) ↔ F.beginTx = false ∧
        F.commit = false ∧
          ∃ r, saveChunks insert setId F 0 (chunks BATCH_INSERT_SIZE xs) t [] = .ok r := by
      unfold saveAll
      rw [if_neg (by simpa using hemp)]
      cases F.beginTx with
      | true => simp
      | false =>
        cases saveChunks insert setId F 0 (chunks BATCH_INSERT_SIZE xs) t [] with
        | error e => simp
        | ok r => cases F.commit <;> simp
    rw [hcall, hchunks]
    simp only [lt_length_chunks (n := BATCH_INSERT_SIZE) (by decide), Nat.zero_add]
    refine ⟨?_, ?_⟩
    · rintro ⟨hbegin, hcommit, hfaults, hgood, hfit⟩
      exact Or.inr ⟨⟨hbegin, hfaults, hcommit⟩, hgood, hfit.resolve_left hcs⟩
    · rintro (hnil | ⟨hspares, hgood, hfit⟩)
      · exact absurd hnil hemp
      · exact ⟨hspares.beginTx, hspares.commit, hspares.chunk, hgood, Or.inr hfit⟩

end SaveBatch

theorem EmailContent.takes (clock : ℕ → Instant) :
    Takes (EmailContent.insertChunk clock) fun _ => True := by
  refine ⟨?_, ?_⟩
  · intro k chunk t
    unfold EmailContent.insertChunk Table.insert?
    rw [List.length_map]
    by_cases hfit : t.seq + chunk.length ≤ maxRowid
    · simp [hfit]
    · simp [hfit]
  · intro k chunk t t' h
    rw [Table.insert?_eq_some h, Table.seq_append, List.length_map]

theorem EmailContent.saveBatch_isOk_iff {clock : ℕ → Instant} {F : TxFaults}
    {contents : List EmailContent} {t : Table ContentRow} :
    (∃ r, EmailContent.saveBatch clock F contents t = .ok r) ↔
      contents = [] ∨ F.Spares contents.length ∧ t.seq + contents.length ≤ maxRowid := by
  have h := saveAll_isOk_iff (fun id (c : EmailContent) => { c with id := some id })
    (EmailContent.takes clock) F contents t
  simpa [EmailContent.saveBatch] using h

/-- The columns of a request's row are set, and its content exists where that is checked. -/
def EmailRequest.Insertable (E : Env) (contents : Table ContentRow) (req : EmailRequest) : Prop :=
  ∃ topicId c, req.topicId = some topicId ∧ req.contentId = some c ∧
    (E.foreignKeys = true → contents.get? c.toInt ≠ none)

theorem EmailRequest.insertable_iff {E : Env} {contents : Table ContentRow} {now : Instant}
    {req : EmailRequest} : req.Insertable E contents ↔ ∃ row, req.toRow E now = some row ∧
      (E.foreignKeys = true → contents.get? row.contentId ≠ none) := by
  refine ⟨?_, ?_⟩
  · rintro ⟨topicId, c, ht, hc, hget⟩
    exact ⟨_, EmailRequest.toRow_eq_some.2 ⟨topicId, c, ht, hc, rfl⟩, hget⟩
  · rintro ⟨row, hrow, hget⟩
    obtain ⟨topicId, c, ht, hc, rfl⟩ := EmailRequest.toRow_eq_some.1 hrow
    exact ⟨topicId, c, ht, hc, hget⟩

theorem EmailRequest.takes (E : Env) (contents : Table ContentRow) (clock : ℕ → Instant) :
    Takes (EmailRequest.insertChunk E contents clock) (EmailRequest.Insertable E contents) := by
  refine ⟨?_, ?_⟩
  · intro k chunk t
    refine ⟨?_, ?_⟩
    · rintro ⟨t', ht'⟩
      have hroom : t'.seq ≤ maxRowid := by
        obtain ⟨rows, -, h⟩ := Option.bind_eq_some_iff.1 ht'
        split at h
        · cases h
        · exact Table.seq_le_of_insert? h
      obtain ⟨rows, rfl, hstores⟩ := EmailRequest.insertChunk_spec ht'
      rw [Table.seq_append, ← hstores.length_eq] at hroom
      refine ⟨fun req hreq => ?_, hroom⟩
      obtain ⟨row, -, ⟨k', hto⟩, hget⟩ := Lists.forall₂_mem_left hstores hreq
      exact EmailRequest.insertable_iff.2 ⟨row, hto, hget⟩
    · rintro ⟨hgood, hroom⟩
      obtain ⟨rows, hrows⟩ : ∃ rows, chunk.mapM (EmailRequest.toRow E (clock k)) = some rows := by
        apply Lists.mapM_isSome
        intro req hreq
        obtain ⟨row, hrow, -⟩ := EmailRequest.insertable_iff.1 (hgood req hreq)
        exact ⟨row, hrow⟩
      have hall := Lists.mapM_eq_some.1 hrows
      have hfk : ¬ (E.foreignKeys &&
          rows.any fun r => (contents.get? r.contentId).isNone) = true := by
        simp only [Bool.and_eq_true, List.any_eq_true, not_and, not_exists]
        intro hon row hrow hnone
        obtain ⟨req, hreq, hto⟩ := Lists.forall₂_mem_right hall hrow
        obtain ⟨row', hto', hget⟩ := EmailRequest.insertable_iff.1 (hgood req hreq)
        obtain rfl := Option.some.inj (hto.symm.trans hto')
        exact hget hon (Option.isNone_iff_eq_none.1 hnone)
      refine ⟨t.append rows, ?_⟩
      rw [EmailRequest.insertChunk, hrows, Option.bind_some, if_neg hfk]
      exact if_pos (by rw [← hall.length_eq]; exact hroom)
  · intro k chunk t t' h
    obtain ⟨rows, rfl, hstores⟩ := EmailRequest.insertChunk_spec h
    rw [Table.seq_append, hstores.length_eq]

theorem EmailRequest.saveBatch_isOk_iff {E : Env} {contents : Table ContentRow}
    {clock : ℕ → Instant} {F : TxFaults} {requests : List EmailRequest} {t : Table RequestRow} :
    (∃ r, EmailRequest.saveBatch E contents clock F requests t = .ok r) ↔
      requests = [] ∨ F.Spares requests.length ∧
        (∀ req ∈ requests, req.Insertable E contents) ∧ t.seq + requests.length ≤ maxRowid :=
  saveAll_isOk_iff _ (EmailRequest.takes E contents clock) F requests t

/-! ## The requests of a payload -/

/-- The requests of a payload whose contents get the rowids above `seq`. -/
def CreateMessageRequest.mails (payload : CreateMessageRequest) (seq : Int) : List EmailRequest :=
  payload.messages.zipIdx.flatMap fun (msg, j) =>
    msg.emails.map fun email =>
      { id := none, topicId := some (msg.topicId.getD ""), contentId := some (asI32 (seq + 1 + j))
        email, subject := msg.subject, content := msg.content, scheduledAt := payload.scheduledAt
        status := payload.status, error := none, messageId := none }

/-- Zipped with its saved content, every message keeps its own. -/
theorem requests_saved (payload : CreateMessageRequest) (seq : Int) :
    payload.requests (payload.contents.mapIdx fun j c =>
      { c with id := some (asI32 (seq + 1 + j)) }) = payload.mails seq := by
  have hzip : payload.messages.zip (payload.contents.mapIdx fun j c =>
      ({ c with id := some (asI32 (seq + 1 + j)) } : EmailContent)) =
      payload.messages.zipIdx.map fun p =>
        (p.1, ⟨some (asI32 (seq + 1 + p.2)), p.1.subject, p.1.content⟩) := by
    apply List.ext_getElem (by simp [CreateMessageRequest.contents])
    intro j h1 h2
    simp [CreateMessageRequest.contents]
  unfold CreateMessageRequest.requests CreateMessageRequest.mails
  rw [hzip, List.flatMap_map]

theorem mem_mails {payload : CreateMessageRequest} {seq : Int} {req : EmailRequest}
    (h : req ∈ payload.mails seq) : ∃ (j : ℕ) (msg : Message) (email : String),
      payload.messages[j]? = some msg ∧ email ∈ msg.emails ∧ req =
        { id := none, topicId := some (msg.topicId.getD ""), contentId := some (asI32 (seq + 1 + j))
          email, subject := msg.subject, content := msg.content
          scheduledAt := payload.scheduledAt, status := payload.status
          error := none, messageId := none } := by
  obtain ⟨⟨msg, j⟩, hp, hreq⟩ := List.mem_flatMap.1 h
  obtain ⟨email, hemail, rfl⟩ := List.mem_map.1 hreq
  exact ⟨j, msg, email, List.mem_zipIdx_iff_getElem?.1 hp, hemail, rfl⟩

/-- Every address of a message gets a mail. -/
theorem mails_mem {payload : CreateMessageRequest} {seq : Int} {j : ℕ} {msg : Message}
    {email : String} (hj : payload.messages[j]? = some msg) (hemail : email ∈ msg.emails) :
    { id := none, topicId := some (msg.topicId.getD ""), contentId := some (asI32 (seq + 1 + j))
      email, subject := msg.subject, content := msg.content
      scheduledAt := payload.scheduledAt, status := payload.status
      error := none, messageId := none } ∈ payload.mails seq :=
  List.mem_flatMap.2 ⟨(msg, j), List.mem_zipIdx_iff_getElem?.2 hj,
    List.mem_map.2 ⟨email, hemail, rfl⟩⟩

theorem length_mails (payload : CreateMessageRequest) (seq : Int) :
    (payload.mails seq).length = (payload.messages.flatMap (·.emails)).length := by
  unfold CreateMessageRequest.mails
  rw [List.length_flatMap, List.length_flatMap]
  simp only [List.length_map]
  rw [← List.zipIdx_map_fst 0 payload.messages, List.map_map]
  simp [Function.comp_def]

/-! ## The hand-off loop -/

theorem rowids_markCreated (back : List EmailRequest) :
    (back.map EmailRequest.markCreated).filterMap (·.rowid) = back.filterMap (·.rowid) := by
  rw [List.filterMap_map]
  rfl

section HandOff

/-- How the loop ends: every request is pushed, or from the first one refused on
none is. One whose awaited `send` fails joins neither list. -/
inductive HandOff.Ends (saved : List EmailRequest) (outcomes : ℕ → SendOutcome) : HandOff → Prop where
  | taken (ok : ∀ i < saved.length, outcomes i = .ok ∨ outcomes i = .fullOk) :
      Ends saved outcomes ⟨saved, [], false⟩
  | refused {sent req rest} (split : saved = sent ++ req :: rest)
      (ok : ∀ i < sent.length, outcomes i = .ok ∨ outcomes i = .fullOk)
      (closed : outcomes sent.length = .closed) :
      Ends saved outcomes ⟨sent, (req :: rest).map EmailRequest.markCreated, true⟩
  | lost {sent req rest} (split : saved = sent ++ req :: rest)
      (ok : ∀ i < sent.length, outcomes i = .ok ∨ outcomes i = .fullOk)
      (closed : outcomes sent.length = .fullClosed) :
      Ends saved outcomes ⟨sent, rest.map EmailRequest.markCreated, true⟩

variable {saved : List EmailRequest} {st : HandOff} {outcomes : ℕ → SendOutcome}

theorem HandOff.Ends.cons (h : st.Ends saved fun i => outcomes (i + 1)) (req : EmailRequest)
    (ho : outcomes 0 = .ok ∨ outcomes 0 = .fullOk) :
    HandOff.Ends (req :: saved) outcomes { st with pushed := req :: st.pushed } := by
  have hcons : ∀ n, (∀ i < n, outcomes (i + 1) = .ok ∨ outcomes (i + 1) = .fullOk) →
      ∀ i < n + 1, outcomes i = .ok ∨ outcomes i = .fullOk := by
    intro n hn i hi
    cases i with
    | zero => exact ho
    | succ i => exact hn i (by omega)
  cases h with
  | taken ok => exact .taken (hcons _ ok)
  | refused split ok closed => exact .refused (congrArg (req :: ·) split) (hcons _ ok) closed
  | lost split ok closed => exact .lost (congrArg (req :: ·) split) (hcons _ ok) closed

/-- After a refusal every request goes to the rollback list. -/
theorem HandOff.run_closed (outcomes : ℕ → SendOutcome) (l : List (EmailRequest × ℕ))
    (pushed failed : List EmailRequest) :
    l.foldl (fun st p => st.step p.1 (outcomes p.2)) ⟨pushed, failed, true⟩ =
      (⟨pushed, failed ++ (l.map Prod.fst).map EmailRequest.markCreated, true⟩ : HandOff) := by
  induction l generalizing failed with
  | nil => simp
  | cons p l ih =>
    rw [List.foldl_cons, HandOff.step, if_pos rfl, ih]
    simp

theorem HandOff.run_ends (outcomes : ℕ → SendOutcome) (saved : List EmailRequest) (k : ℕ)
    (pushed : List EmailRequest) :
    ∃ st : HandOff, (st.Ends saved fun i => outcomes (i + k)) ∧
      (saved.zipIdx k).foldl (fun st p => st.step p.1 (outcomes p.2)) ⟨pushed, [], false⟩ =
        { st with pushed := pushed ++ st.pushed } := by
  induction saved generalizing k pushed with
  | nil => exact ⟨_, .taken (by simp), by simp⟩
  | cons req rest ih =>
    have hgo : outcomes k = .ok ∨ outcomes k = .fullOk → ∃ st : HandOff,
        (st.Ends (req :: rest) fun i => outcomes (i + k)) ∧
        ((req :: rest).zipIdx k).foldl (fun st p => st.step p.1 (outcomes p.2))
          ⟨pushed, [], false⟩ = { st with pushed := pushed ++ st.pushed } := by
      intro ho
      obtain ⟨st, hst, hrun⟩ := ih (k + 1) (pushed ++ [req])
      have hshift : (fun i => outcomes (i + (k + 1))) = fun i => outcomes (i + 1 + k) := by
        funext i
        congr 1
        omega
      rw [hshift] at hst
      have hstep : HandOff.step ⟨pushed, [], false⟩ req (outcomes k) =
          ⟨pushed ++ [req], [], false⟩ := by
        rcases ho with ho | ho <;> rw [ho] <;> rfl
      have hcons : HandOff.Ends (req :: rest) (fun i => outcomes (i + k))
          { st with pushed := req :: st.pushed } := hst.cons req (by simpa using ho)
      refine ⟨_, hcons, ?_⟩
      rw [List.zipIdx_cons, List.foldl_cons, hstep, hrun]
      simp
    have hnone : req :: rest = [] ++ req :: rest := rfl
    cases ho : outcomes k with
    | ok => exact hgo (Or.inl ho)
    | fullOk => exact hgo (Or.inr ho)
    | closed =>
      refine ⟨_, .refused hnone (by simp) (by simpa using ho), ?_⟩
      rw [List.zipIdx_cons, List.foldl_cons, ho]
      exact (HandOff.run_closed outcomes _ pushed [req.markCreated]).trans (by simp)
    | fullClosed =>
      refine ⟨_, .lost hnone (by simp) (by simpa using ho), ?_⟩
      rw [List.zipIdx_cons, List.foldl_cons, ho]
      exact (HandOff.run_closed outcomes _ pushed []).trans (by simp)

theorem handOff_ends (saved : List EmailRequest) (outcomes : ℕ → SendOutcome) :
    (handOff saved outcomes).Ends saved outcomes := by
  obtain ⟨st, hst, hrun⟩ := HandOff.run_ends outcomes saved 0 []
  rw [handOff, HandOff.init, hrun]
  exact hst

theorem HandOff.Ends.prefix_pushed (h : st.Ends saved outcomes) : st.pushed <+: saved := by
  cases h with
  | taken => exact List.prefix_refl _
  | refused split => exact split ▸ List.prefix_append _ _
  | lost split => exact split ▸ List.prefix_append _ _

/-- On an open channel every request is pushed, in order. -/
theorem handOff_ok (h : ∀ i, outcomes i = .ok ∨ outcomes i = .fullOk) (saved : List EmailRequest) :
    handOff saved outcomes = ⟨saved, [], false⟩ := by
  generalize hl : handOff saved outcomes = loop
  cases hl ▸ handOff_ends saved outcomes with
  | taken => rfl
  | refused _ _ closed => rcases h _ with ho | ho <;> rw [ho] at closed <;> cases closed
  | lost _ _ closed => rcases h _ with ho | ho <;> rw [ho] at closed <;> cases closed

/-- Where the requests the loop has gone through are: pushed, on the rollback list,
or lost in a `send` that failed. -/
structure HandOff.Sorted (done back lost : List EmailRequest) (st : HandOff) : Prop where
  failed : st.failed = back.map EmailRequest.markCreated
  all : (st.pushed ++ back ++ lost).Perm done
  lost_le : lost.length ≤ 1
  not_lost : st.channelClosed = false → lost = []

/-- The loop puts every request in exactly one place. -/
theorem handOff_sorted (saved : List EmailRequest) (outcomes : ℕ → SendOutcome) :
    ∃ back lost, (handOff saved outcomes).Sorted saved back lost ∧
      ((∀ i, outcomes i ≠ .fullClosed) → lost = []) := by
  generalize hl : handOff saved outcomes = loop
  cases hl ▸ handOff_ends saved outcomes with
  | taken => exact ⟨[], [], ⟨rfl, by simp, by simp, fun _ => rfl⟩, fun _ => rfl⟩
  | @refused sent req rest split _ _ =>
    exact ⟨req :: rest, [], ⟨rfl, by rw [split, List.append_nil], by simp, by simp⟩, fun _ => rfl⟩
  | @lost sent req rest split _ closed =>
    refine ⟨rest, [req], ⟨rfl, ?_, by simp, by simp⟩, fun hno => absurd closed (hno _)⟩
    have hcomm : (rest ++ [req]).Perm ([req] ++ rest) := List.perm_append_comm
    rw [split, List.append_assoc]
    exact hcomm.append_left sent

end HandOff

end Ses
