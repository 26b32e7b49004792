import SesSender.Proofs.Ownership
import Mathlib.Data.List.Pairwise

/-! What the rows of `email_requests` record. A row is blank until SES has
answered for it, and then carries that answer. -/

namespace Ses

open Calendar

/-- The delivery columns of a row, by what SES has returned. -/
inductive Recorded (returned : List (EmailRequest × Except SendEmailError String)) (id : Int)
    (row : RequestRow) : Prop where
  | blank
      (status : row.status = EmailMessageStatus.created.asI32 ∨
        row.status = EmailMessageStatus.processed.asI32 ∨
        row.status = EmailMessageStatus.stopped.asI32)
      (messageId : row.messageId = none) (error : row.error = none)
  | sent {req m} (mem : (req, .ok m) ∈ returned) (rowid : req.rowid = some id)
      (status : row.status = EmailMessageStatus.sent.asI32)
      (messageId : row.messageId = some m) (error : row.error = none)
  | failed {req e} (mem : (req, .error e) ∈ returned) (rowid : req.rowid = some id)
      (status : row.status = EmailMessageStatus.failed.asI32)
      (messageId : row.messageId = none) (error : row.error = some e.toText)

structure RowsOk (E : Env) (s : Sys) : Prop where
  decodes : Decodes s.db.requests
  referenced : E.foreignKeys = true → ∀ id row, s.db.requests.get? id = some row →
    s.db.contents.get? row.contentId ≠ none
  recorded : ∀ id row, s.db.requests.get? id = some row → Recorded s.hist.returned id row

variable {E : Env} {s t : Sys} {e : Event}

theorem Recorded.mono {returned returned' : List (EmailRequest × Except SendEmailError String)}
    {id : Int} {row : RequestRow} (h : Recorded returned id row) (hr : returned <+: returned') :
    Recorded returned' id row := by
  cases h with
  | blank status messageId error => exact .blank status messageId error
  | sent mem rowid status messageId error => exact .sent (hr.subset mem) rowid status messageId error
  | failed mem rowid status messageId error =>
    exact .failed (hr.subset mem) rowid status messageId error

theorem Recorded.blank_of {returned : List (EmailRequest × Except SendEmailError String)} {id : Int}
    {row : RequestRow} (h : Recorded returned id row)
    (hs : row.status = EmailMessageStatus.created.asI32 ∨
      row.status = EmailMessageStatus.processed.asI32 ∨
      row.status = EmailMessageStatus.stopped.asI32) :
    row.messageId = none ∧ row.error = none := by
  cases h with
  | blank _ messageId error => exact ⟨messageId, error⟩
  | sent _ _ status => rw [status] at hs; simp [EmailMessageStatus.asI32] at hs
  | failed _ _ status => rw [status] at hs; simp [EmailMessageStatus.asI32] at hs

/-- A blank row that takes over what an answered request carries records it. -/
theorem Answered.recorded {returned : List (EmailRequest × Except SendEmailError String)}
    {req : EmailRequest} {id : Int} {row : RequestRow} (h : Answered returned req)
    (hid : req.rowid = some id) (hs : row.status = req.status)
    (hm : row.messageId = req.messageId) (he : row.error = req.error) :
    Recorded returned id row := by
  cases h with
  | @of req result fresh mem =>
    rw [EmailRequest.rowid_answered] at hid
    cases result with
    | ok m => exact .sent mem hid hs hm (he.trans fresh.error)
    | error e => exact .failed mem hid hs (hm.trans fresh.messageId) he

/-- A row held by somebody is blank. -/
theorem RowsOk.held_row (hrows : RowsOk E s) (hbook : Ledger.Inv s.book) {id : Int}
    (hid : id ∈ (s.nearIds : Multiset Int) + (s.farIds : Multiset Int)) :
    ∃ row, s.db.requests.get? id = some row ∧
      row.status = EmailMessageStatus.processed.asI32 ∧ row.messageId = none ∧ row.error = none := by
  obtain ⟨row, hrow, hp⟩ := Sys.book_phase_eq_some.1 (hbook.held id hid)
  have hs := RequestRow.phase_eq_taken.1 hp
  obtain ⟨hm, he⟩ := (hrows.recorded id row hrow).blank_of (Or.inr (Or.inl hs))
  exact ⟨row, hrow, hs, hm, he⟩

/-! ## The batch -/

/-- With distinct ids one request alone carries the id. -/
theorem only_of_nodup {batch : List EmailRequest} (hn : (batch.filterMap (·.rowid)).Nodup)
    {req req' : EmailRequest} (hreq : req ∈ batch) (hreq' : req' ∈ batch) {id : Int}
    (hid : req.rowid = some id) (hid' : req'.rowid = some id) : req' = req := by
  have hpair := List.pairwise_filterMap.1 hn
  have : Std.Symm fun r r' : EmailRequest =>
      ∀ x, r.rowid = some x → ∀ x', r'.rowid = some x' → x ≠ x' :=
    ⟨fun _ _ h x hx x' hx' => (h x' hx' x hx).symm⟩
  by_contra hne
  exact hpair.forall hreq' hreq hne id hid' id hid rfl

theorem find_of_nodup {batch : List EmailRequest} (hn : (batch.filterMap (·.rowid)).Nodup)
    {req : EmailRequest} (hreq : req ∈ batch) {id : Int} (hid : req.rowid = some id) :
    batch.find? (fun r => r.rowid = some id) = some req := by
  cases hfind : batch.find? (fun r => r.rowid = some id) with
  | none => exact absurd hid (by simpa using List.find?_eq_none.1 hfind req hreq)
  | some r =>
    have hrid := List.find?_some hfind
    rw [decide_eq_true_eq] at hrid
    rw [only_of_nodup hn hreq (List.mem_of_find?_eq_some hfind) hid hrid]

theorem firstText_of_nodup {batch : List EmailRequest} (hn : (batch.filterMap (·.rowid)).Nodup)
    {req : EmailRequest} (hreq : req ∈ batch) {id : Int} (hid : req.rowid = some id)
    (get : EmailRequest → Option String) : firstText get batch id = get req := by
  unfold firstText
  cases hget : batch.findSome? (fun r => if r.rowid = some id then get r else none) with
  | none =>
    have h := List.findSome?_eq_none_iff.1 hget req hreq
    rw [if_pos hid] at h
    exact h.symm
  | some text =>
    obtain ⟨r, hr, htext⟩ := List.exists_of_findSome?_eq_some hget
    split_ifs at htext with hrid
    rw [only_of_nodup hn hreq hr hid hrid] at htext
    exact htext.symm

/-- With distinct ids the ladders write to a row what its own request carries. -/
theorem bulkWritten_of_nodup {batch : List EmailRequest} (hn : (batch.filterMap (·.rowid)).Nodup)
    {req : EmailRequest} (hreq : req ∈ batch) {id : Int} (hid : req.rowid = some id) (now : Instant)
    (row : RequestRow) :
    bulkWritten now batch id row =
      { row with
        status := req.status
        messageId := req.messageId.or row.messageId
        error := req.error.or row.error
        updatedAt := now.stamp } := by
  unfold bulkWritten firstStatus
  rw [find_of_nodup hn hreq hid, firstText_of_nodup hn hreq hid, firstText_of_nodup hn hreq hid]
  rfl

/-! ## The step -/

theorem nodup_batch (hbook : Ledger.Inv s.book) : (s.post.batch.filterMap (·.rowid)).Nodup := by
  have h := (Multiset.nodup_add.1 hbook.nodup).2.1
  change (s.farIds : Multiset Int).Nodup at h
  rw [Sys.coe_farIds] at h
  exact (Multiset.nodup_add.1 h).2.1

theorem mem_near_of_failed {i : ℕ} {h : Handler} (hi : s.handlers[i]? = some h)
    {id : Int} (hid : id ∈ h.failed.filterMap (·.rowid)) :
    id ∈ (s.nearIds : Multiset Int) + (s.farIds : Multiset Int) := by
  obtain ⟨N, hN, -⟩ := near_setHandler hi
  rw [hN, Handler.coe_ids]
  simp only [Multiset.mem_add]
  exact Or.inl (Or.inl (Or.inr hid))

theorem mem_far_of_batch {req : EmailRequest} (hreq : req ∈ s.post.batch) {id : Int}
    (hid : req.rowid = some id) : id ∈ (s.nearIds : Multiset Int) + (s.farIds : Multiset Int) := by
  rw [Sys.coe_farIds]
  simp only [Multiset.mem_add]
  exact Or.inr (Or.inr (mem_idsOf.2 ⟨req, hreq, hid⟩))

/-- A row as the requests of a payload are stored. -/
theorem Stores.written {contents : Table ContentRow} {payload : CreateMessageRequest}
    {savedContents : List EmailContent} {clock : ℕ → Instant} {req : EmailRequest}
    {row : RequestRow} (hreq : req ∈ payload.requests savedContents)
    (h : Stores E contents clock req row) :
    row.status = payload.status ∧ row.messageId = none ∧ row.error = none := by
  obtain ⟨hst, -⟩ := CreateMessageRequest.mem_requests hreq
  obtain ⟨⟨now, hrow⟩, -⟩ := h
  obtain ⟨_, _, _, _, rfl⟩ := EmailRequest.toRow_eq_some.1 hrow
  exact ⟨hst, rfl, rfl⟩

theorem Stores.recorded {contents : Table ContentRow} {payload : CreateMessageRequest}
    {savedContents : List EmailContent} {clock : ℕ → Instant} {req : EmailRequest}
    {row : RequestRow} (hreq : req ∈ payload.requests savedContents)
    (h : Stores E contents clock req row)
    (returned : List (EmailRequest × Except SendEmailError String)) (id : Int) :
    Recorded returned id row := by
  obtain ⟨hs, hm, he⟩ := h.written hreq
  refine .blank ?_ hm he
  rw [hs, CreateMessageRequest.status]
  split
  · exact Or.inl rfl
  · exact Or.inr (Or.inl rfl)

/-- A change that keeps the content ids and records what it writes. -/
theorem RowsOk.of_map (hs : s.Step E e t) (h : RowsOk E s)
    (hmap : ∀ id row', t.db.requests.get? id = some row' → ∃ row,
      s.db.requests.get? id = some row ∧ row'.contentId = row.contentId ∧
      Recorded t.hist.returned id row') : RowsOk E t := by
  refine ⟨fun id row' hrow' => ?_, fun hfk id row' hrow' => ?_, fun id row' hrow' => ?_⟩
  · obtain ⟨row, hrow, hc, -⟩ := hmap id row' hrow'
    rw [hc]
    exact h.decodes id row hrow
  · obtain ⟨row, hrow, hc, -⟩ := hmap id row' hrow'
    rw [hc]
    cases hget : s.db.contents.get? row.contentId with
    | none => exact absurd hget (h.referenced hfk id row hrow)
    | some c => simp [hs.grows.contents _ _ hget]
  · exact (hmap id row' hrow').choose_spec.2.2

/-- An update that keeps the content ids, by what it writes to the rows it hits. -/
theorem RowsOk.of_update (hs : s.Step E e t) (h : RowsOk E s) {p : Int → RequestRow → Prop}
    [∀ id row, Decidable (p id row)] {f : Int → RequestRow → RequestRow}
    (hget : ∀ id, t.db.requests.get? id =
      (s.db.requests.get? id).map fun row => if p id row then f id row else row)
    (hcontent : ∀ id row, (f id row).contentId = row.contentId)
    (hwritten : ∀ id row, s.db.requests.get? id = some row → p id row →
      Recorded t.hist.returned id (f id row)) : RowsOk E t := by
  refine h.of_map hs fun id row' hrow' => ?_
  rw [hget] at hrow'
  obtain ⟨row, hrow, rfl⟩ := Option.map_eq_some_iff.1 hrow'
  split_ifs with hp
  · exact ⟨row, hrow, hcontent id row, hwritten id row hrow hp⟩
  · exact ⟨row, hrow, rfl, (h.recorded id row hrow).mono hs.grows.returned⟩

theorem RowsOk.step (hs : s.Step E e t) (hc : Carried E s) (hbook : Ledger.Inv s.book)
    (h : RowsOk E s) : RowsOk E t := by
  have hret := hs.grows.returned
  have hchange := hs.requests
  generalize ht' : t.db.requests = r at hchange
  cases hchange with
  | same =>
    refine h.of_map hs fun id row' hrow' => ?_
    rw [ht'] at hrow'
    exact ⟨row', hrow', rfl, (h.recorded id row' hrow').mono hret⟩
  | @insert payload contents clock rows stores =>
    have hcases : ∀ id row', t.db.requests.get? id = some row' →
        s.db.requests.get? id = some row' ∨
        ∃ req ∈ payload.requests contents, Stores E s.db.contents clock req row' := by
      intro id row' hrow'
      rw [ht'] at hrow'
      rcases Table.get?_append_cases hrow' with hold | ⟨i, -, hi⟩
      · exact Or.inl hold
      · obtain ⟨req, hreq, hst⟩ := Lists.forall₂_getElem?_right stores hi
        exact Or.inr ⟨req, List.mem_of_getElem? hreq, hst⟩
    refine ⟨fun id row' hrow' => ?_, fun hfk id row' hrow' => ?_, fun id row' hrow' => ?_⟩
    · rcases hcases id row' hrow' with hold | ⟨req, -, hst⟩
      · exact h.decodes id row' hold
      · exact hst.decodes
    · have hne : s.db.contents.get? row'.contentId ≠ none := by
        rcases hcases id row' hrow' with hold | ⟨req, -, hst⟩
        · exact h.referenced hfk id row' hold
        · exact hst.2 hfk
      cases hget : s.db.contents.get? row'.contentId with
      | none => exact absurd hget hne
      | some c => simp [hs.grows.contents _ _ hget]
    · rcases hcases id row' hrow' with hold | ⟨req, hreq, hst⟩
      · exact (h.recorded id row' hold).mono hret
      · exact hst.recorded hreq _ id
  | @rollback i loop response handler =>
    refine h.of_update hs
      (fun id => (congrArg (·.get? id) ht').trans (get?_rollbackToCreated s.now _ _ id))
      (fun _ _ => by rfl) fun id row hrow hid => ?_
    obtain ⟨row₁, hrow₁, -, hm, he⟩ := h.held_row hbook (mem_near_of_failed handler hid)
    obtain rfl := Option.some.inj (hrow₁.symm.trans hrow)
    exact .blank (Or.inl rfl) hm he
  | @claim chosen oldest =>
    refine h.of_update hs (fun id => (congrArg (·.get? id) ht').trans (get?_claim s.now _ _ id))
      (fun _ _ => by rfl) fun id row hrow hid => ?_
    obtain ⟨row₁, hrow₁, hst, -⟩ := oldest.due hid
    obtain rfl := Option.some.inj (hrow₁.symm.trans hrow)
    obtain ⟨hm, he⟩ := (h.recorded id row₁ hrow).blank_of (Or.inl hst)
    exact .blank (Or.inr (Or.inl rfl)) hm he
  | stop topicId =>
    refine h.of_update hs (fun id => (congrArg (·.get? id) ht').trans (get?_stopTopic s.now _ _ id))
      (fun _ _ => by rfl) fun id row hrow hst => ?_
    obtain ⟨hm, he⟩ := (h.recorded id row hrow).blank_of (Or.inl hst.1)
    exact .blank (Or.inr (Or.inr rfl)) hm he
  | @bulk batch last r post written =>
    have hb : s.post.batch = batch := by rw [post]; rfl
    refine h.of_update hs
      (fun id => (congrArg (·.get? id) ht').trans (get?_bulkUpdateAll written id))
      (fun _ _ => by rfl) fun id row hrow hid => ?_
    obtain ⟨req, hreq, hid⟩ := List.mem_map.1 hid
    rw [← hb] at hreq
    obtain ⟨row₁, hrow₁, hst, hm, he⟩ := h.held_row hbook (mem_far_of_batch hreq hid)
    obtain rfl := Option.some.inj (hrow₁.symm.trans hrow)
    rw [← hb, bulkWritten_of_nodup (nodup_batch hbook) hreq hid]
    exact ((hc.batch req hreq).mono hret).recorded hid rfl (by simp [hm]) (by simp [he])
  | @update req rest last post =>
    have hreq : req ∈ s.post.batch := by rw [post]; exact List.mem_cons_self
    refine h.of_update hs (fun id => (congrArg (·.get? id) ht').trans (get?_update s.now _ _ id))
      (fun _ _ => by rfl) fun id row hrow hid => ?_
    exact ((hc.batch req hreq).mono hret).recorded hid rfl rfl rfl

theorem RowsOk.init (E : Env) (now : Instant) : RowsOk E (Sys.init now) := by
  constructor <;> simp [Sys.init, Sys.boot, Db.empty, Decodes]

end Ses
