import SesSender.Proofs.LifeCycle

/-! Which request an event is credited to: a notification by the message id its
send returned, an open by the id printed into the pixel's URL. -/

namespace Ses

open Calendar

variable {E : Env} {s t : Sys} {e : Event} {now₀ : Instant} {evs : List Event}

/-! ## Printed ids -/

/-- A printed number parses back. -/
theorem parseI32_toString (n : ℕ) : parseI32 (toString n) = decodeI32 n := by
  have hlist : (toString n).toList = Nat.toDigits 10 n := Nat.toList_repr
  have hdigit : ∀ c ∈ Nat.toDigits 10 n, c.isDigit = true :=
    fun c hc => Nat.isDigit_of_mem_toDigits (by decide) (by decide) hc
  have hvalue : digitsValue (Nat.toDigits 10 n) = n := by
    rw [digitsValue, ← Nat.ofDigitChars_eq_foldl]
    exact Nat.ofDigitChars_ten_toDigits
  have hne : (Nat.toDigits 10 n).isEmpty = false := by
    simp [Nat.toDigits_ne_nil]
  unfold parseI32
  rw [hlist]
  split
  · rename_i ds h
    exact absurd (hdigit '-' (by rw [h]; exact List.mem_cons_self)) (by decide)
  · rename_i ds h
    exact absurd (hdigit '+' (by rw [h]; exact List.mem_cons_self)) (by decide)
  · simp only [hne, List.all_eq_true.2 hdigit, Bool.not_true, Bool.or_self, Bool.false_eq_true,
      if_false, Option.bind_some, hvalue]

theorem parseI32_id {x : Int32} (hx : 0 ≤ x.toInt) : parseI32 (toString x.toInt) = some x := by
  obtain ⟨n, hn⟩ := Int.eq_ofNat_of_zero_le hx
  have hstr : toString x.toInt = toString n := by rw [hn]; rfl
  rw [hstr, parseI32_toString, ← hn, decodeI32_toInt]

/-! ## Message ids -/

/-- The message ids SES has returned. -/
def Sys.returnedIds (s : Sys) : List String := s.hist.returned.filterMap fun a => a.2.toOption

theorem mem_returnedIds {m : String} :
    m ∈ s.returnedIds ↔ ∃ req, (req, .ok m) ∈ s.hist.returned := by
  unfold Sys.returnedIds
  rw [List.mem_filterMap]
  refine ⟨?_, ?_⟩
  · rintro ⟨⟨req, result⟩, hmem, hm⟩
    cases result with
    | ok m' => exact ⟨req, Option.some.inj hm ▸ hmem⟩
    | error => cases hm
  · rintro ⟨req, hmem⟩
    exact ⟨_, hmem, rfl⟩

/-- Distinct ids were returned for one request each. -/
theorem returned_inj (hids : s.returnedIds.Nodup) {m : String} {req req' : EmailRequest}
    (h : (req, .ok m) ∈ s.hist.returned) (h' : (req', .ok m) ∈ s.hist.returned) : req = req' := by
  unfold Sys.returnedIds at hids
  generalize s.hist.returned = returned at hids h h'
  induction returned with
  | nil => cases h
  | cons a returned ih =>
    have hmem : ∀ r : EmailRequest, (r, .ok m) ∈ returned →
        m ∈ returned.filterMap fun a => a.2.toOption :=
      fun r hr => List.mem_filterMap.2 ⟨_, hr, rfl⟩
    rw [List.filterMap_cons] at hids
    rcases List.mem_cons.1 h with rfl | h <;> rcases List.mem_cons.1 h' with h' | h'
    · exact (Prod.ext_iff.1 h').1.symm
    · exact absurd (hmem req' h') (List.nodup_cons.1 hids).1
    · rw [← h'] at hids
      exact absurd (hmem req h) (List.nodup_cons.1 hids).1
    · refine ih ?_ h h'
      split at hids
      · exact hids
      · exact (List.nodup_cons.1 hids).2

/-- A row that carries a message id is the one of the request it was returned for. -/
theorem RowsOk.returned_for (h : RowsOk E s) {id : Int} {row : RequestRow} {m : String}
    (hrow : s.db.requests.get? id = some row) (hm : row.messageId = some m) :
    ∃ req, (req, .ok m) ∈ s.hist.returned ∧ req.rowid = some id := by
  cases h.recorded id row hrow with
  | blank _ messageId => rw [messageId] at hm; cases hm
  | sent mem rowid _ messageId =>
    obtain rfl := Option.some.inj (messageId.symm.trans hm)
    exact ⟨_, mem, rowid⟩
  | failed _ _ _ messageId => rw [messageId] at hm; cases hm

/-! ## Results -/

/-- The notification names a message id that was returned for the row. -/
def Names (E : Env) (returned : List (EmailRequest × Except SendEmailError String)) (text : String)
    (status : String) (rowid : Int) : Prop :=
  ∃ n m req, E.sesNotification text = some n ∧ n.mailMessageId = some m ∧ status = n.eventType ∧
    (req, .ok m) ∈ returned ∧ req.rowid = some rowid

theorem Names.mono {returned returned' : List (EmailRequest × Except SendEmailError String)}
    {text status : String} {rowid : Int} (h : Names E returned text status rowid)
    (hr : returned <+: returned') : Names E returned' text status rowid := by
  obtain ⟨n, m, req, hn, hm, hs, hmem, hid⟩ := h
  exact ⟨n, m, req, hn, hm, hs, hr.subset hmem, hid⟩

structure Attributed (E : Env) (s : Sys) : Prop where
  pending : ∀ r ∈ s.pending, ∀ text, r.raw = some text →
    Names E s.hist.returned text r.status r.requestId.toInt
  results : ∀ i r, s.db.results.get? i = some r → ∀ text, r.raw = some text →
    Names E s.hist.returned text r.status r.requestId

/-- What the lookup finds. -/
theorem getRequestId_spec {m : String} {r : Table RequestRow} {x : Int32}
    (h : EmailRequest.getRequestIdByMessageId m r = .ok x) :
    ∃ row, r.get? x.toInt = some row ∧ row.messageId = some m := by
  unfold EmailRequest.getRequestIdByMessageId at h
  split at h
  · cases h
  · rename_i found hfound
    split at h
    · cases h
    · rename_i y hy
      obtain rfl := Except.ok.inj h
      refine ⟨found.2, ?_, by simpa using List.find?_some hfound⟩
      rw [decodeI32_eq_some hy, Table.get?_eq_some]
      exact List.mem_of_find?_eq_some hfound

theorem notificationResult_spec {lookupFails : Bool} {r : Table RequestRow} {text : String}
    {result : EmailResult} (h : notificationResult E lookupFails r text = .ok result) :
    ∃ n m row, E.sesNotification text = some n ∧ n.mailMessageId = some m ∧
      r.get? result.requestId.toInt = some row ∧ row.messageId = some m ∧
      result.status = n.eventType ∧ result.raw = some text := by
  unfold notificationResult at h
  split at h
  · cases h
  · rename_i n hn
    split at h
    · cases h
    · rename_i m hm
      split at h
      · cases h
      · split at h
        · cases h
        · rename_i x hx
          obtain rfl := Except.ok.inj h
          obtain ⟨row, hrow, hmid⟩ := getRequestId_spec hx
          exact ⟨n, m, row, hn, hm, hrow, hmid, rfl, rfl⟩

theorem EmailResult.save_eq {now : Instant} {requests : Table RequestRow} {r : EmailResult}
    {t t' : Table ResultRow} (h : r.save E now requests t = some t') :
    t' = t.append [{ requestId := r.requestId.toInt, status := r.status, raw := r.raw
                     createdAt := now.stamp }] := by
  unfold EmailResult.save at h
  split at h
  · cases h
  · exact Table.insert?_eq_some h

theorem Attributed.step (hs : s.Step E e t) (hrows : RowsOk E s) (h : Attributed E s) :
    Attributed E t := by
  have hret := hs.grows.returned
  cases hs with
  | @notified message ok result lookup =>
    refine ⟨fun r hr text ht => ?_, h.results⟩
    rcases List.mem_append.1 hr with hr | hr
    · exact h.pending r hr text ht
    · obtain rfl := List.mem_singleton.1 hr
      obtain ⟨n, m, row, hn, hm, hrow, hmid, hst, hraw⟩ := notificationResult_spec lookup
      obtain ⟨req, hmem, hid⟩ := hrows.returned_for hrow hmid
      obtain rfl := Option.some.inj (hraw.symm.trans ht)
      exact ⟨n, m, req, hn, hm, hst, hmem, hid⟩
  | @opened query result read =>
    refine ⟨fun r hr text ht => ?_, h.results⟩
    rcases List.mem_append.1 hr with hr | hr
    · exact h.pending r hr text ht
    · obtain rfl := List.mem_singleton.1 hr
      obtain ⟨q, -, hq⟩ := Option.bind_eq_some_iff.1 read
      obtain ⟨x, -, rfl⟩ := Option.map_eq_some_iff.1 hq
      cases ht
  | @resultSaved k r results pending save =>
    refine ⟨fun r' hr' text ht => ?_, fun i row hrow text ht => ?_⟩
    · exact h.pending r' (List.mem_of_mem_eraseIdx hr') text ht
    · obtain rfl := EmailResult.save_eq save
      rcases Table.get?_append_cases hrow with hold | ⟨j, -, hj⟩
      · exact h.results i row hold text ht
      · cases j with
        | zero =>
          obtain rfl := Option.some.inj hj
          exact h.pending r (List.mem_of_getElem? pending) text ht
        | succ j => cases hj
  | resultRefused ok pending =>
    exact ⟨fun r' hr' text ht => h.pending r' (List.mem_of_mem_eraseIdx hr') text ht, h.results⟩
  | restart => exact ⟨by simp [Sys.boot], h.results⟩
  | _ =>
    exact ⟨fun r hr text ht => (h.pending r hr text ht).mono hret,
      fun i r hr text ht => (h.results i r hr text ht).mono hret⟩

theorem Run.attributed (hrun : Run E now₀ evs s) (hfit : s.IdsFit) : Attributed E s := by
  have hall : s.Inv E ∧ Attributed E s := by
    refine Exec.run_invariant (G := Sys.IdsFit) (I := fun s => s.Inv E ∧ Attributed E s)
      (P := fun _ => True) (fun h ht => (Sys.Step.of_step h).idsFit ht) (fun h _ ht hs => ?_) hrun
      (fun _ _ => trivial) hfit ⟨Sys.Inv.init E now₀, ?_⟩
    · have hstep := Sys.Step.of_step h
      exact ⟨hs.1.step hstep ht, hs.2.step hstep hs.1.rows⟩
    · constructor <;> simp [Sys.init, Sys.boot, Db.empty]
  exact hall.2

/-- Distinct message ids name their rows. -/
theorem RowsOk.rowid_of_messageId (h : RowsOk E s) (hids : s.returnedIds.Nodup) {m : String}
    {req : EmailRequest} (hmem : (req, .ok m) ∈ s.hist.returned) {id : Int} {row : RequestRow}
    (hrow : s.db.requests.get? id = some row) (hm : row.messageId = some m) :
    req.rowid = some id := by
  obtain ⟨req', hmem', hid⟩ := h.returned_for hrow hm
  rw [returned_inj hids hmem hmem', hid]

/-! ## The pixel -/

/-- The query of the pixel's URL. -/
def pixelQuery (x : Int32) : String := "request_id=" ++ toString x.toInt

theorem body_eq (E : Env) {req : EmailRequest} {x : Int32} (hx : req.id = some x) :
    req.body E = req.content ++ "<img src=\"" ++ E.serverUrl ++ "/v1/events/open?" ++
      pixelQuery x ++ "\">" := by
  have hpath : "/v1/events/open?request_id=" = "/v1/events/open?" ++ "request_id=" := by decide
  unfold EmailRequest.body openTarget pixelQuery EmailRequest.requestId
  rw [hx, Option.getD_some, hpath]
  simp only [String.append_assoc]

/-- A GET of the pixel is an open of the request it was made for. -/
theorem openResult_pixel
    (hquery : ∀ n : ℕ, E.openQuery ("request_id=" ++ toString n) = some ⟨some (toString n)⟩)
    {x : Int32} (hx : 0 ≤ x.toInt) :
    (E.openQuery (pixelQuery x)).bind openResult = some ⟨none, x, "Open", none⟩ := by
  obtain ⟨n, hn⟩ := Int.eq_ofNat_of_zero_le hx
  have hstr : toString x.toInt = toString n := by rw [hn]; rfl
  have hparse := parseI32_id hx
  rw [hstr] at hparse
  rw [pixelQuery, hstr, hquery, Option.bind_some, openResult, Option.bind_some, hparse]
  rfl

/-! ## The runs -/

/-- With distinct message ids, a row carries the id its own send returned, and a
result is credited to that row; an open is credited to the request whose body
held the pixel. -/
theorem events_attributed (hrun : Run E now₀ evs s) (hfit : s.IdsFit)
    (hids : s.returnedIds.Nodup)
    (hquery : ∀ n : ℕ, E.openQuery ("request_id=" ++ toString n) = some ⟨some (toString n)⟩) :
    (∀ m id id' row row', s.db.requests.get? id = some row → s.db.requests.get? id' = some row' →
      row.messageId = some m → row'.messageId = some m → id = id') ∧
    (∀ m id row, s.db.requests.get? id = some row → row.messageId = some m →
      m ∈ s.returnedIds ∧ ∀ req, (req, .ok m) ∈ s.hist.returned → req.rowid = some id) ∧
    (∀ i r text, s.db.results.get? i = some r → r.raw = some text →
      ∃ n m, E.sesNotification text = some n ∧ n.mailMessageId = some m ∧ m ∈ s.returnedIds ∧
        ∀ req, (req, .ok m) ∈ s.hist.returned → req.rowid = some r.requestId) ∧
    (∀ call ∈ s.hist.called, ∃ x row, call.1.id = some x ∧
      s.db.requests.get? x.toInt = some row ∧
      call.2 = call.1.content ++ "<img src=\"" ++ E.serverUrl ++ "/v1/events/open?" ++
        pixelQuery x ++ "\">" ∧
      ∀ u : Sys, u.step E (.getOpen (pixelQuery x)) =
        some { u with pending := u.pending ++ [⟨none, x, "Open", none⟩] }) ∧
    ∀ k r t, s.pending[k]? = some r → s.step E (.saveResult k true) = some t →
      t.db.results = s.db.results ∨
      t.db.results = s.db.results.append [⟨r.requestId.toInt, r.status, r.raw, s.now.stamp⟩] := by
  have h := hrun.inv hfit
  refine ⟨?_, ?_, ?_, ?_, ?_⟩
  · intro m id id' row row' hrow hrow' hm hm'
    obtain ⟨req, hmem, hid⟩ := h.rows.returned_for hrow hm
    have hid' := h.rows.rowid_of_messageId hids hmem hrow' hm'
    exact Option.some.inj (hid.symm.trans hid')
  · intro m id row hrow hm
    obtain ⟨req, hmem, -⟩ := h.rows.returned_for hrow hm
    exact ⟨mem_returnedIds.2 ⟨req, hmem⟩,
      fun req' hmem' => h.rows.rowid_of_messageId hids hmem' hrow hm⟩
  · intro i r text hr htext
    obtain ⟨n, m, req, hn, hm, -, hmem, hid⟩ := (hrun.attributed hfit).results i r hr text htext
    refine ⟨n, m, hn, hm, mem_returnedIds.2 ⟨req, hmem⟩, fun req' hmem' => ?_⟩
    rw [returned_inj hids hmem' hmem, hid]
  · intro call hcall
    obtain ⟨⟨⟨x, hx⟩, -, -, -⟩, hbody⟩ := h.carried.called call hcall
    obtain ⟨id, row, hid, hrow⟩ := hrun.called_rows hfit call hcall
    obtain rfl : x.toInt = id := by simpa [EmailRequest.rowid, hx] using hid
    refine ⟨x, row, hx, hrow, by rw [hbody, body_eq E hx], fun u => ?_⟩
    have hopen := openResult_pixel hquery (Table.pos_of_get? hrow).le
    simp only [Sys.step, Sys.getOpen, hopen]
  · intro k r t hk hstep
    cases Sys.Step.of_step hstep with
    | resultSaved pending save =>
      obtain rfl := Option.some.inj (hk.symm.trans pending)
      exact Or.inr (EmailResult.save_eq save)
    | resultRefused => exact Or.inl rfl

/-- The delivery notification and the open of the pixel, after the flush. -/
def creditEvents : List Event :=
  [.notify deliveryText true, .saveResult 0 true, .getOpen "request_id=1", .saveResult 0 true]

theorem sampleEnv_openQuery (n : ℕ) :
    sampleEnv.openQuery ("request_id=" ++ toString n) = some ⟨some (toString n)⟩ := by
  have hlist : ("request_id=" ++ toString n).toList = "request_id=".toList ++ (toString n).toList :=
    String.toList_append
  have hprefix : "request_id=".toList.isPrefixOf ("request_id=".toList ++ (toString n).toList) =
      true := List.isPrefixOf_iff_prefix.2 (List.prefix_append _ _)
  have hdrop : ("request_id=".toList ++ (toString n).toList).drop 11 = (toString n).toList :=
    List.drop_left' rfl
  simp only [sampleEnv, hlist, hprefix, hdrop, if_true, String.ofList_toList]

theorem events_attributed_sample :
    ∃ s, Run sampleEnv newYear (handOffEvents ++ answerEvents ++ flushEvents ++ creditEvents) s ∧
      (∃ r, s.db.results.get? 1 = some r ∧ r.status = "Delivery") ∧
      (∃ r, s.db.results.get? 2 = some r ∧ r.status = "Open" ∧ r.requestId = 1) ∧
      ∃ row, s.db.requests.get? 1 = some row ∧ row.messageId = some "m-1" ∧
        ∀ req, (req, .ok "m-1") ∈ s.hist.returned → req.rowid = some 1 := by
  obtain ⟨s, hs, hp⟩ := Exec.exists_of_any (Sys.step sampleEnv) (Sys.init newYear)
    (handOffEvents ++ answerEvents ++ flushEvents ++ creditEvents)
    (fun s => decide (s.IdsFit ∧ s.returnedIds.Nodup) &&
      (s.db.requests.get? 1).any (fun row => row.messageId = some "m-1") &&
      (s.db.results.get? 1).any (fun r => r.status = "Delivery") &&
      (s.db.results.get? 2).any fun r => r.status = "Open" ∧ r.requestId = 1) (by decide)
  simp only [Bool.and_eq_true, decide_eq_true_eq, Option.any_eq_true] at hp
  obtain ⟨⟨⟨⟨hfit, hids⟩, row, hrow, hm⟩, r, hr, hst⟩, r', hr', hst', hid'⟩ := hp
  have hall := events_attributed hs hfit hids sampleEnv_openQuery
  exact ⟨s, hs, ⟨r, hr, hst⟩, ⟨r', hr', hst', hid'⟩, row, hrow, hm,
    (hall.2.1 "m-1" 1 row hrow hm).2⟩

/-! ## Notifications and the flush -/

/-- The lookup finds the one row that carries the message id. -/
theorem getRequestId_eq {m : String} {r : Table RequestRow} {id : Int} (hfit : id ≤ i32Max)
    (huniq : ∀ id' row, r.get? id' = some row → row.messageId = some m → id' = id)
    {row : RequestRow} (hrow : r.get? id = some row) (hm : row.messageId = some m) :
    ∃ x, EmailRequest.getRequestIdByMessageId m r = .ok x ∧ x.toInt = id := by
  have hmem : (id, row) ∈ r.rows := Table.get?_eq_some.1 hrow
  cases hfind : r.rows.find? fun p => p.2.messageId = some m with
  | none =>
    have := List.find?_eq_none.1 hfind _ hmem
    simp [hm] at this
  | some found =>
    have hfound : found.2.messageId = some m := by simpa using List.find?_some hfind
    have hid : found.1 = id :=
      huniq _ _ (Table.get?_eq_some.2 (List.mem_of_find?_eq_some hfind)) hfound
    have hpos := Table.pos_of_get? hrow
    have hdec : decodeI32 id = some (asI32 id) := decodeI32_of_fit hpos.le hfit
    refine ⟨asI32 id, ?_, asI32_toInt hpos.le hfit⟩
    unfold EmailRequest.getRequestIdByMessageId
    rw [hfind]
    simp only [hid, hdec]

theorem getRequestId_none {m : String} {r : Table RequestRow}
    (hno : ∀ id row, r.get? id = some row → row.messageId ≠ some m) :
    EmailRequest.getRequestIdByMessageId m r = .error .rowNotFound := by
  have hfind : r.rows.find? (fun p => p.2.messageId = some m) = none := by
    rw [List.find?_eq_none]
    rintro ⟨id, row⟩ hmem
    simpa using hno id row (Table.get?_eq_some.2 hmem)
  unfold EmailRequest.getRequestIdByMessageId
  rw [hfind]

/-- The post-processor has written the message id to the row. -/
def Sys.Written (s : Sys) (id : Int) (m : String) : Prop :=
  ∃ row, s.db.requests.get? id = some row ∧ row.messageId = some m

/-- A result of a row that exists is saved. -/
theorem EmailResult.save_of_row {now : Instant} {requests : Table RequestRow} {r : EmailResult}
    {results : Table ResultRow} {row : RequestRow}
    (hrow : requests.get? r.requestId.toInt = some row)
    (hroom : results.seq < maxRowid) :
    r.save E now requests results = some (results.append [{
      requestId := r.requestId.toInt, status := r.status, raw := r.raw
      createdAt := now.stamp }]) := by
  unfold EmailResult.save
  have hfits : results.seq + 1 ≤ maxRowid := hroom
  rw [if_neg (by simp [hrow]), Table.insert?, if_pos (by simpa using hfits)]

/-- A notification for a returned message id is credited to its request, with
one result, from the moment the id is written to the row. Before that it is
answered 404 and leaves nothing. -/
theorem notification_follows_flush (hrun : Run E now₀ evs s) (hfit : s.IdsFit)
    (hids : s.returnedIds.Nodup) {req : EmailRequest} {m : String} {id : Int}
    (hmem : (req, .ok m) ∈ s.hist.returned) (hid : req.rowid = some id)
    {text : String} {n : SesNotification} (hn : E.sesNotification text = some n)
    (hm : n.mailMessageId = some m) :
    (s.Written id m → ∃ r : EmailResult,
      notificationResult E false s.db.requests text = .ok r ∧ r.requestId.toInt = id ∧
      ∀ evs' u, Exec.run (Sys.step E) s evs' = some u → u.db.results.seq < maxRowid →
        r.save E u.now u.db.requests u.db.results =
          some (u.db.results.append [⟨id, n.eventType, some text, u.now.stamp⟩])) ∧
    (s.Written id m → s.db.results.seq < maxRowid →
      processSesNotification E s.now false false text s.db = (.ok (), { s.db with
        results := s.db.results.append [⟨id, n.eventType, some text, s.now.stamp⟩] })) ∧
    (¬ s.Written id m →
      processSesNotification E s.now false false text s.db =
        (.error (.notFound "Request not found"), s.db)) := by
  have h := hrun.inv hfit
  have huniq : ∀ id' row, s.db.requests.get? id' = some row → row.messageId = some m →
      id' = id := by
    intro id' row hrow hm'
    have hid' := h.rows.rowid_of_messageId hids hmem hrow hm'
    exact Option.some.inj (hid'.symm.trans hid)
  have hfound : s.Written id m → ∃ r : EmailResult,
      notificationResult E false s.db.requests text = .ok r ∧ r.requestId.toInt = id ∧
      r.status = n.eventType ∧ r.raw = some text := by
    rintro ⟨row, hrow, hm'⟩
    have hle := (Table.le_seq_of_get? hrow).trans hfit
    obtain ⟨x, hx, hxid⟩ := getRequestId_eq hle huniq hrow hm'
    refine ⟨⟨none, x, n.eventType, some text⟩, ?_, hxid, rfl, rfl⟩
    unfold notificationResult
    simp only [hn, hm, hx, Bool.false_eq_true, if_false]
  have hsave : ∀ r : EmailResult, r.requestId.toInt = id → r.status = n.eventType →
      r.raw = some text → s.Written id m → ∀ evs' u, Exec.run (Sys.step E) s evs' = some u →
      u.db.results.seq < maxRowid → r.save E u.now u.db.requests u.db.results =
        some (u.db.results.append [⟨id, n.eventType, some text, u.now.stamp⟩]) := by
    rintro r rfl hst hraw ⟨row, hrow, -⟩ evs' u hrun' hroom
    obtain ⟨row', hrow', -⟩ := (grows_of_run hrun').rows _ _ hrow
    rw [EmailResult.save_of_row hrow' hroom, hst, hraw]
  refine ⟨fun hw => ?_, fun hw hroom => ?_, fun hno => ?_⟩
  · obtain ⟨r, hr, hrid, hst, hraw⟩ := hfound hw
    exact ⟨r, hr, hrid, hsave r hrid hst hraw hw⟩
  · obtain ⟨r, hr, hrid, hst, hraw⟩ := hfound hw
    have hnow := hsave r hrid hst hraw hw [] s rfl hroom
    unfold processSesNotification
    rw [hr]
    simp only [Bool.false_eq_true, if_false, hnow]
  · have hnone := getRequestId_none (m := m) (r := s.db.requests) fun id' row hrow hm' =>
      hno ⟨row, huniq id' row hrow hm' ▸ hrow, hm'⟩
    unfold processSesNotification notificationResult
    simp only [hn, hm, hnone, Bool.false_eq_true, if_false]

theorem sampleEnv_delivery : sampleEnv.sesNotification deliveryText = some delivery := by
  change (if deliveryText = deliveryText then some delivery else none) = some delivery
  exact if_pos rfl

theorem notification_follows_flush_sample :
    ∃ s, Run sampleEnv newYear (handOffEvents ++ answerEvents ++ flushEvents) s ∧
      ∃ db, processSesNotification sampleEnv s.now false false deliveryText s.db = (.ok (), db) := by
  obtain ⟨s, hs, hp⟩ := Exec.exists_of_any (Sys.step sampleEnv) (Sys.init newYear)
    (handOffEvents ++ answerEvents ++ flushEvents)
    (fun s => decide (s.IdsFit ∧ s.returnedIds.Nodup ∧ s.db.results.seq < maxRowid) &&
      (s.db.requests.get? 1).any (fun row => row.messageId = some "m-1") &&
      s.hist.returned.any fun a => a.1.rowid = some 1 ∧ a.2.toOption = some "m-1") (by decide)
  simp only [Bool.and_eq_true, decide_eq_true_eq, Option.any_eq_true, List.any_eq_true] at hp
  obtain ⟨⟨⟨hfit, hids, hroom⟩, hw⟩, ⟨req, result⟩, hmem, hid, hresult⟩ := hp
  cases result with
  | error => cases hresult
  | ok m =>
    obtain rfl : m = "m-1" := Option.some.inj hresult
    exact ⟨s, hs, _, (notification_follows_flush hs hfit hids hmem hid sampleEnv_delivery
      rfl).2.1 hw hroom⟩

/-- SES has returned `m-1`, the batch that holds it is not flushed, and the
notification is turned away. -/
theorem early_notification_lost : ¬ ∀ (E : Env) (now₀ : Instant) (evs : List Event) (s : Sys)
    (req : EmailRequest) (m : String) (text : String) (n : SesNotification),
    Run E now₀ evs s → s.IdsFit → s.returnedIds.Nodup → (∀ m ∈ s.returnedIds, m ≠ "") →
    (req, .ok m) ∈ s.hist.returned → E.sesNotification text = some n →
    n.mailMessageId = some m →
    (processSesNotification E s.now false false text s.db).1 = .ok () := by
  intro h
  obtain ⟨s, hs, hp⟩ := Exec.exists_of_any (Sys.step sampleEnv) (Sys.init newYear)
    (handOffEvents ++ answerEvents)
    (fun s => decide (s.IdsFit ∧ s.returnedIds = ["m-1"] ∧
      (processSesNotification sampleEnv s.now false false deliveryText s.db).1.toOption = none))
    (by decide)
  obtain ⟨hfit, hids, hlost⟩ := of_decide_eq_true hp
  obtain ⟨req, hmem⟩ := mem_returnedIds.1 (show "m-1" ∈ s.returnedIds by rw [hids]; simp)
  have hok := h sampleEnv newYear _ s req "m-1" deliveryText delivery hs hfit
    (by rw [hids]; decide) (by rw [hids]; decide) hmem sampleEnv_delivery rfl
  rw [hok] at hlost
  cases hlost

end Ses
