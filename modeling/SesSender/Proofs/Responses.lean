import SesSender.Proofs.Saving

/-! Every answer of `create_message`. When its inserts go through is read off the
input, and each answer comes with what the call leaves. -/

namespace Ses

open Calendar Chunks

variable {E : Env} {env : CreateEnv} {payload : CreateMessageRequest} {db : Db}

namespace CreateMessageRequest

def total (payload : CreateMessageRequest) : ℕ := (payload.messages.flatMap (·.emails)).length

/-! ## When the two inserts go through -/

/-- The contents transaction meets no fault and finds rowids. -/
def ContentsFit (payload : CreateMessageRequest) (env : CreateEnv) (db : Db) : Prop :=
  env.contentsTx.Spares payload.messages.length ∧
    db.contents.seq + payload.messages.length ≤ maxRowid

/-- The content id bound for the mails of the `j`-th message, cut to 32 bits,
names an old content or one of the new ones. -/
def Refers (payload : CreateMessageRequest) (t : Table ContentRow) (j : ℕ) : Prop :=
  t.get? (asI32 (t.seq + 1 + j)).toInt ≠ none ∨
    t.seq < (asI32 (t.seq + 1 + j)).toInt ∧
      (asI32 (t.seq + 1 + j)).toInt ≤ t.seq + payload.messages.length

/-- There is nothing to insert, or the requests transaction meets no fault, finds
rowids, and passes the foreign key where it is checked. -/
def RequestsFit (payload : CreateMessageRequest) (E : Env) (env : CreateEnv) (db : Db) : Prop :=
  payload.total = 0 ∨ env.requestsTx.Spares payload.total ∧
    (E.foreignKeys = true → ∀ j msg, payload.messages[j]? = some msg → msg.emails ≠ [] →
      payload.Refers db.contents j) ∧
    db.requests.seq + payload.total ≤ maxRowid

theorem contents_isOk_iff (hmsgs : payload.messages ≠ []) :
    (∃ r, EmailContent.saveBatch env.contentsClock env.contentsTx payload.contents
      db.contents = .ok r) ↔ payload.ContentsFit env db := by
  have hlen : payload.contents.length = payload.messages.length := List.length_map _
  have hne : payload.contents ≠ [] := by simpa [contents] using hmsgs
  rw [EmailContent.saveBatch_isOk_iff, or_iff_right hne, hlen]
  rfl

theorem refers_iff {rows : List ContentRow} (hlen : rows.length = payload.messages.length) (j : ℕ) :
    (db.contents.append rows).get? (asI32 (db.contents.seq + 1 + j)).toInt ≠ none ↔
      payload.Refers db.contents j := by
  rw [Table.get?_append_ne_none, hlen]
  rfl

theorem insertable_iff {rows : List ContentRow} (hlen : rows.length = payload.messages.length) :
    (∀ req ∈ payload.mails db.contents.seq, req.Insertable E (db.contents.append rows)) ↔
      (E.foreignKeys = true → ∀ j msg, payload.messages[j]? = some msg → msg.emails ≠ [] →
        payload.Refers db.contents j) := by
  refine ⟨?_, ?_⟩
  · intro h hon j msg hj hne
    obtain ⟨email, hemail⟩ := List.exists_mem_of_ne_nil _ hne
    obtain ⟨topicId, c, -, hc, hget⟩ := h _ (mails_mem hj hemail)
    obtain rfl := Option.some.inj hc
    exact (refers_iff hlen j).1 (hget hon)
  · intro h req hreq
    obtain ⟨j, msg, email, hj, hemail, rfl⟩ := mem_mails hreq
    exact ⟨_, _, rfl, rfl, fun hon =>
      (refers_iff hlen j).2 (h hon j msg hj (List.ne_nil_of_mem hemail))⟩

theorem requests_isOk_iff {rows : List ContentRow} (hlen : rows.length = payload.messages.length) :
    (∃ r, EmailRequest.saveBatch E (db.contents.append rows) env.requestsClock env.requestsTx
      (payload.mails db.contents.seq) db.requests = .ok r) ↔ payload.RequestsFit E env db := by
  have htotal : (payload.mails db.contents.seq).length = payload.total := length_mails _ _
  rw [EmailRequest.saveBatch_isOk_iff, insertable_iff hlen, ← List.length_eq_zero_iff, htotal]
  rfl

end CreateMessageRequest

/-! ## The answers -/

/-- Rows as `EmailContent::save_batch` writes them for a payload. -/
def CreateMessageRequest.ContentRows (payload : CreateMessageRequest) (rows : List ContentRow) :
    Prop :=
  List.Forall₂ (fun c row => ∃ now, row = EmailContent.toRow now c) payload.contents rows

theorem CreateMessageRequest.ContentRows.length {rows : List ContentRow}
    (h : payload.ContentRows rows) : rows.length = payload.messages.length :=
  h.length_eq.symm.trans (List.length_map _)

/-- What `save_batch` returns for the requests of a payload. -/
def CreateMessageRequest.saved (payload : CreateMessageRequest) (db : Db) : List EmailRequest :=
  (payload.mails db.contents.seq).mapIdx fun i req =>
    { req with id := some (asI32 (db.requests.seq + 1 + i)) }

/-- Every mail refers to a content with its own subject and text. -/
def Resolves (contents : Table ContentRow) (mails : List EmailRequest) : Prop :=
  ∀ req ∈ mails, ∃ c row, req.contentId = some c ∧ contents.get? c.toInt = some row ∧
    row.subject = req.subject ∧ row.content = req.content

theorem resolves_saved {t : Table ContentRow} {rows : List ContentRow}
    (hfit : t.seq + payload.messages.length ≤ i32Max) (hrows : payload.ContentRows rows) :
    Resolves (t.append rows) (payload.mails t.seq) := by
  intro req hreq
  obtain ⟨j, msg, email, hj, -, rfl⟩ := mem_mails hreq
  have hlt := (List.getElem?_eq_some_iff.1 hj).1
  have h0 := t.seq_nonneg
  have hc : payload.contents[j]? = some ⟨none, msg.subject, msg.content⟩ := by
    rw [CreateMessageRequest.contents, List.getElem?_map, hj]
    rfl
  obtain ⟨row, hrow, now, rfl⟩ := Lists.forall₂_getElem?_left hrows hc
  refine ⟨_, EmailContent.toRow now ⟨none, msg.subject, msg.content⟩, rfl, ?_, rfl, rfl⟩
  rw [asI32_toInt (by omega) (by omega), Table.get?_append_new, hrow]

/-- Every answer of a call, with what its input was like and what it leaves. -/
inductive Responds (E : Env) (env : CreateEnv) (payload : CreateMessageRequest) (db : Db) :
    CreateResult → Prop where
  | empty (msgs : payload.messages = []) :
      Responds E env payload db ⟨.error (.badRequest "No messages provided"), db, []⟩
  | contentsFailed (e : SqlxError) (msgs : payload.messages ≠ [])
      (unfit : ¬ payload.ContentsFit env db) :
      Responds E env payload db ⟨.error (.database e), db, []⟩
  | tooMany {crows} (msgs : payload.messages ≠ []) (fit : payload.ContentsFit env db)
      (contents : payload.ContentRows crows) (many : MAX_EMAILS_PER_REQUEST < payload.total) :
      Responds E env payload db
        ⟨.error (.badRequest s!"Max {MAX_EMAILS_PER_REQUEST} emails per request"),
          { db with contents := db.contents.append crows }, []⟩
  | requestsFailed {crows} (msgs : payload.messages ≠ []) (fit : payload.ContentsFit env db)
      (contents : payload.ContentRows crows) (few : payload.total ≤ MAX_EMAILS_PER_REQUEST)
      (unfit : ¬ payload.RequestsFit E env db) :
      Responds E env payload db
        ⟨.ok ⟨payload.total, 0, payload.total, payload.isScheduled⟩,
          { db with contents := db.contents.append crows }, []⟩
  | scheduled {crows rows} (msgs : payload.messages ≠ []) (fit : payload.ContentsFit env db)
      (contents : payload.ContentRows crows) (few : payload.total ≤ MAX_EMAILS_PER_REQUEST)
      (fit' : payload.RequestsFit E env db)
      (stores : List.Forall₂ (Stores E (db.contents.append crows) env.requestsClock)
        (payload.mails db.contents.seq) rows)
      (timed : payload.isScheduled = true) :
      Responds E env payload db
        ⟨.ok ⟨payload.total, payload.total, 0, payload.isScheduled⟩,
          { db with
            contents := db.contents.append crows, requests := db.requests.append rows }, []⟩
  | immediate {crows rows} (msgs : payload.messages ≠ []) (fit : payload.ContentsFit env db)
      (contents : payload.ContentRows crows) (few : payload.total ≤ MAX_EMAILS_PER_REQUEST)
      (fit' : payload.RequestsFit E env db)
      (stores : List.Forall₂ (Stores E (db.contents.append crows) env.requestsClock)
        (payload.mails db.contents.seq) rows)
      (untimed : payload.isScheduled = false) :
      Responds E env payload db
        ⟨.ok ⟨payload.total, payload.total, 0, payload.isScheduled⟩,
          { db with
            contents := db.contents.append crows
            requests := if env.rollbackFails then db.requests.append rows
              else rollbackToCreated env.rollbackNow
                ((handOff (payload.saved db) env.outcomes).failed.filterMap (·.id))
                (db.requests.append rows) },
          (handOff (payload.saved db) env.outcomes).pushed⟩

theorem createMessage_responds (E : Env) (env : CreateEnv) (payload : CreateMessageRequest)
    (db : Db) : Responds E env payload db (createMessage E env payload db) := by
  unfold createMessage
  by_cases hemp : payload.messages = []
  · rw [if_pos (by simpa using hemp)]
    exact .empty hemp
  · rw [if_neg (by simpa using hemp)]
    cases hsave : EmailContent.saveBatch env.contentsClock env.contentsTx payload.contents
        db.contents with
    | error e =>
      refine .contentsFailed e hemp fun hfit => ?_
      obtain ⟨r, hr⟩ := (CreateMessageRequest.contents_isOk_iff hemp).2 hfit
      rw [hsave] at hr
      cases hr
    | ok r =>
      have hfit := (CreateMessageRequest.contents_isOk_iff hemp).1 ⟨r, hsave⟩
      obtain ⟨savedContents, contents⟩ := r
      obtain ⟨crows, rfl, hcrows, rfl⟩ := EmailContent.saveBatch_spec hsave
      have hrows : payload.ContentRows crows := hcrows
      have htotal : (payload.mails db.contents.seq).length = payload.total := length_mails _ _
      simp only [requests_saved, htotal]
      by_cases hmany : payload.total > MAX_EMAILS_PER_REQUEST
      · rw [if_pos hmany]
        exact .tooMany hemp hfit hrows hmany
      · have hfew : payload.total ≤ MAX_EMAILS_PER_REQUEST := by omega
        rw [if_neg hmany]
        cases hsave' : EmailRequest.saveBatch E (db.contents.append crows) env.requestsClock
            env.requestsTx (payload.mails db.contents.seq) db.requests with
        | error e =>
          refine .requestsFailed hemp hfit hrows hfew fun hfit' => ?_
          obtain ⟨r, hr⟩ := (CreateMessageRequest.requests_isOk_iff hrows.length).2 hfit'
          rw [hsave'] at hr
          cases hr
        | ok r =>
          have hfit' := (CreateMessageRequest.requests_isOk_iff hrows.length).1 ⟨r, hsave'⟩
          obtain ⟨saved, t⟩ := r
          obtain ⟨rows, rfl, hstores, rfl⟩ := EmailRequest.saveBatch_spec hsave'
          simp only [List.length_mapIdx, htotal]
          by_cases htimed : payload.isScheduled = true
          · rw [if_pos htimed]
            exact .scheduled hemp hfit hrows hfew hfit' hstores htimed
          · rw [if_neg htimed]
            exact .immediate hemp hfit hrows hfew hfit' hstores (Bool.not_eq_true _ ▸ htimed)

/-! ## When the statements succeed -/

/-- What a call leaves whose statements succeed. -/
structure Created (E : Env) (env : CreateEnv) (payload : CreateMessageRequest) (db : Db)
    (contents : Table ContentRow) (rows : List RequestRow) (loop : HandOff) : Prop where
  resolves : Resolves contents (payload.mails db.contents.seq)
  stores : List.Forall₂ (Stores E contents env.requestsClock) (payload.mails db.contents.seq) rows
  loop_eq : loop = if payload.isScheduled then HandOff.init
    else handOff (payload.saved db) env.outcomes
  pushed : (createMessage E env payload db).pushed = loop.pushed
  db_eq : (createMessage E env payload db).db =
    { db with
      contents
      requests := rollbackToCreated env.rollbackNow (loop.failed.filterMap (·.id))
        (db.requests.append rows) }

/-- A content id that is not cut names one of the new contents. -/
theorem CreateMessageRequest.refers_of_fits {t : Table ContentRow} {j : ℕ}
    (hj : j < payload.messages.length) (hfit : t.seq + payload.messages.length ≤ i32Max) :
    payload.Refers t j := by
  have h0 := t.seq_nonneg
  unfold Refers
  rw [asI32_toInt (by omega) (by omega)]
  exact Or.inr ⟨by omega, by omega⟩

theorem createMessage_created
    (henv : env.StatementsSucceed)
    (htotal : (payload.messages.flatMap (·.emails)).length ≤ MAX_EMAILS_PER_REQUEST)
    (hcontents : db.contents.seq + payload.messages.length ≤ i32Max)
    (hrequests : db.requests.seq + (payload.messages.flatMap (·.emails)).length ≤ i32Max) :
    ∃ contents rows loop, Created E env payload db contents rows loop := by
  have hmax : i32Max ≤ maxRowid := by decide
  have hfit : payload.ContentsFit env db :=
    ⟨henv.contentsTx ▸ TxFaults.spares_none _, hcontents.trans hmax⟩
  have hfit' : payload.RequestsFit E env db := by
    refine Or.inr ⟨henv.requestsTx ▸ TxFaults.spares_none _, fun _ j msg hj _ => ?_,
      hrequests.trans hmax⟩
    exact CreateMessageRequest.refers_of_fits (List.getElem?_eq_some_iff.1 hj).1 hcontents
  generalize hcall : createMessage E env payload db = res
  cases hcall ▸ createMessage_responds E env payload db with
  | empty msgs =>
    have hmails : payload.mails db.contents.seq = [] := by simp [CreateMessageRequest.mails, msgs]
    have hsaved : payload.saved db = [] := by simp [CreateMessageRequest.saved, hmails]
    refine ⟨db.contents, [], HandOff.init, ?_, ?_, ?_, ?_, ?_⟩
    · rw [hmails]
      intro req hreq
      cases hreq
    · rw [hmails]
      exact .nil
    · rw [hsaved]
      split <;> rfl
    · rw [hcall]
      rfl
    · rw [hcall, Table.append_nil]
      rfl
  | contentsFailed e msgs unfit => exact absurd hfit unfit
  | tooMany msgs fit contents many => exact absurd htotal (not_le.2 many)
  | requestsFailed msgs fit contents few unfit => exact absurd hfit' unfit
  | @scheduled crows rows msgs fit contents few fit' stores timed =>
    refine ⟨_, rows, HandOff.init, resolves_saved hcontents contents, stores, ?_, ?_, ?_⟩
    · rw [if_pos timed]
    · rw [hcall]
      rfl
    · rw [hcall]
      rfl
  | @immediate crows rows msgs fit contents few fit' stores untimed =>
    refine ⟨_, rows, _, resolves_saved hcontents contents, stores, rfl, ?_, ?_⟩
    · rw [hcall, untimed]
      rfl
    · rw [hcall, untimed, henv.rollback]
      rfl

end Ses
