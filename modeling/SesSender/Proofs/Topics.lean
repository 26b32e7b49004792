import SesSender.Proofs.History
import SesSender.Proofs.ResultCounts
import SesSender.Proofs.StatusCounts
import SesSender.Spec.Http

/-! The statistics of a topic, read from a table the program itself has filled. -/

namespace Ses

open Calendar

variable {E : Env} {s t : Sys} {e : Event} {now₀ : Instant} {evs : List Event}

/-! ## Statuses -/

theorem Recorded.status_known {returned : List (EmailRequest × Except SendEmailError String)}
    {id : Int} {row : RequestRow} (h : Recorded returned id row) :
    ∃ st : EmailMessageStatus, row.status = st.asI32 := by
  cases h with
  | blank status =>
    rcases status with hst | hst | hst
    · exact ⟨.created, hst⟩
    · exact ⟨.processed, hst⟩
    · exact ⟨.stopped, hst⟩
  | sent _ _ status => exact ⟨.sent, status⟩
  | failed _ _ status => exact ⟨.failed, status⟩

theorem RowsOk.known (h : RowsOk E s) {topicId : String} {r : Int × RequestRow}
    (hr : r ∈ topicRows topicId s.db.requests) : ∃ st : EmailMessageStatus, r.2.status = st.asI32 :=
  (h.recorded r.1 r.2 (Table.get?_eq_some.2 (List.mem_of_mem_filter hr))).status_known

theorem length_rows_le {α : Type*} (t : Table α) : (t.rows.length : Int) ≤ t.seq := by
  have hsub : (t.rows.map Prod.fst).toFinset ⊆ Finset.Icc 1 t.seq := by
    intro id hid
    obtain ⟨r, hr, rfl⟩ := List.mem_map.1 (List.mem_toFinset.1 hid)
    obtain ⟨hpos, hle⟩ := t.bound r hr
    exact Finset.mem_Icc.2 ⟨hpos, hle⟩
  have hcard := Finset.card_le_card hsub
  rw [List.toFinset_card_of_nodup t.nodup, List.length_map, Int.card_Icc] at hcard
  have := t.seq_nonneg
  omega

theorem statusCount_le (topicId : String) (t : Table RequestRow) (p : Int → Bool) :
    (statusCount topicId t p : Int) ≤ t.seq := by
  have hle : statusCount topicId t p ≤ t.rows.length :=
    (List.length_filter_le _ _).trans (List.length_filter_le _ _)
  have := length_rows_le t
  omega

/-- What the program writes the counter can tell apart. -/
theorem RowsOk.oneUnknown (h : RowsOk E s) (hfit : s.IdsFit) (topicId : String) :
    OneUnknown topicId s.db.requests := by
  have hknown : ∀ r ∈ topicRows topicId s.db.requests, unknownStatus r.2.status ≠ true := by
    intro r hr hunk
    obtain ⟨st, hst⟩ := h.known hr
    exact unknownStatus_iff.1 hunk st hst
  refine ⟨fun r hr => ?_, fun status => (statusCount_le _ _ _).trans hfit,
    fun r hr _ _ hunk => absurd hunk (hknown r hr)⟩
  obtain ⟨st, hst⟩ := h.known hr
  exact ⟨Int32.ofInt st.asI32, by rw [hst]; cases st <;> rfl⟩

theorem RowsOk.no_unknown (h : RowsOk E s) (topicId : String) :
    statusCount topicId s.db.requests unknownStatus = 0 := by
  refine statusCount_eq_zero fun r hr hunk => ?_
  obtain ⟨st, hst⟩ := h.known hr
  exact unknownStatus_iff.1 hunk st hst

/-! ## Results -/

/-- An open, or a result of a mail that went out. -/
def Sys.Credits (s : Sys) (requestId : Int) (status : String) : Prop :=
  status = "Open" ∨ s.IsSent requestId

structure Credited (s : Sys) : Prop where
  pending : ∀ r ∈ s.pending, s.Credits r.requestId.toInt r.status
  results : ∀ i r, s.db.results.get? i = some r →
    (∃ id : Int32, r.requestId = id.toInt) ∧ s.Credits r.requestId r.status

theorem Sys.Inv.isSent_run (h : s.Inv E) (hrun : Exec.run (Sys.step E) s evs = some t)
    (hfit : t.IdsFit) {id : Int} (hsent : s.IsSent id) : t.IsSent id := by
  obtain ⟨row, hrow, hst⟩ := hsent
  obtain ⟨row', hrow', hst'⟩ := h.final_status hrun hfit hrow (by rw [hst]; decide)
  exact ⟨row', hrow', hst'.trans hst⟩

theorem Credited.step (hc : Credited s) (h : s.Inv E) (hstep : s.step E e = some t)
    (hfit : t.IdsFit) : Credited t := by
  have hrun : Exec.run (Sys.step E) s [e] = some t := Exec.run_cons.2 ⟨t, hstep, rfl⟩
  have hkeep : ∀ {id : Int} {status : String}, s.Credits id status → t.Credits id status :=
    fun h' => h'.imp_right (h.isSent_run hrun hfit)
  have hpending : ∀ {l : List EmailResult}, (∀ r ∈ l, r ∈ s.pending) →
      ∀ r ∈ l, t.Credits r.requestId.toInt r.status :=
    fun hsub r hr => hkeep (hc.pending r (hsub r hr))
  have hresults : ∀ i r, s.db.results.get? i = some r →
      (∃ id : Int32, r.requestId = id.toInt) ∧ t.Credits r.requestId r.status :=
    fun i r hr => ⟨(hc.results i r hr).1, hkeep (hc.results i r hr).2⟩
  cases Sys.Step.of_step hstep with
  | @notified message ok result lookup =>
    refine ⟨fun r hr => ?_, hresults⟩
    rcases List.mem_append.1 hr with hr | hr
    · exact hpending (fun _ h => h) r hr
    · obtain rfl := List.mem_singleton.1 hr
      obtain ⟨n, m, row, -, -, hrow, hm, -, -⟩ := notificationResult_spec lookup
      refine Or.inr ⟨row, hrow, ?_⟩
      cases h.rows.recorded _ row hrow with
      | blank _ messageId => rw [messageId] at hm; cases hm
      | sent _ _ status => exact status
      | failed _ _ _ messageId => rw [messageId] at hm; cases hm
  | opened read =>
    refine ⟨fun r hr => ?_, hresults⟩
    rcases List.mem_append.1 hr with hr | hr
    · exact hpending (fun _ h => h) r hr
    · obtain rfl := List.mem_singleton.1 hr
      obtain ⟨q, -, hq⟩ := Option.bind_eq_some_iff.1 read
      obtain ⟨x, -, rfl⟩ := Option.map_eq_some_iff.1 hq
      exact Or.inl rfl
  | @resultSaved k r results pending save =>
    refine ⟨hpending fun _ => List.mem_of_mem_eraseIdx, fun i row hrow => ?_⟩
    obtain rfl := EmailResult.save_eq save
    rcases Table.get?_append_cases hrow with hold | ⟨j, -, hj⟩
    · exact hresults i row hold
    · cases j with
      | zero =>
        obtain rfl := Option.some.inj hj
        exact ⟨⟨r.requestId, rfl⟩, hkeep (hc.pending r (List.mem_of_getElem? pending))⟩
      | succ j => cases hj
  | resultRefused => exact ⟨hpending fun _ => List.mem_of_mem_eraseIdx, hresults⟩
  | restart => exact ⟨nofun, hresults⟩
  | _ => exact ⟨hpending fun _ h => h, hresults⟩

theorem Run.credited (hrun : Run E now₀ evs s) (hfit : s.IdsFit) : Credited s := by
  have hall : s.Inv E ∧ Credited s := by
    refine Exec.run_invariant (G := Sys.IdsFit) (I := fun s => s.Inv E ∧ Credited s)
      (P := fun _ => True) (fun h ht => (Sys.Step.of_step h).idsFit ht) (fun h _ ht hs => ?_) hrun
      (fun _ _ => trivial) hfit ⟨Sys.Inv.init E now₀, nofun, nofun⟩
    exact ⟨hs.1.step (Sys.Step.of_step h) ht, hs.2.step hs.1 h ht⟩
  exact hall.2

theorem Credited.resultIdsFit (h : Credited s) : ResultIdsFit s.db := by
  intro row hrow
  obtain ⟨⟨i, r⟩, hr, rfl⟩ := List.mem_map.1 hrow
  exact (h.results i r (Table.get?_eq_some.2 hr)).1

/-- Mails with a result other than an open went out. -/
theorem Credited.ncard_le (hc : Credited s) (h : s.Inv E)
    (hrun : Exec.run (Sys.step E) s evs = some t) (hfit : t.IdsFit) (topicId : String)
    {status : String} (hne : status ≠ "Open") : (idsWith topicId s.db status).ncard ≤
      statusCount topicId t.db.requests (· = EmailMessageStatus.sent.asI32) := by
  let sent := (topicRows topicId t.db.requests).filter fun r =>
    r.2.status = EmailMessageStatus.sent.asI32
  have hsub : idsWith topicId s.db status ⊆ ((sent.map Prod.fst).toFinset : Set Int) := by
    rintro id ⟨row, hrow, rfl, rfl, req, hreq, htopic⟩
    obtain ⟨⟨i, r⟩, hr, rfl⟩ := List.mem_map.1 hrow
    have hsent := (hc.results i r (Table.get?_eq_some.2 hr)).2.resolve_left hne
    obtain ⟨row', hrow', hst⟩ := h.isSent_run hrun hfit hsent
    obtain ⟨row'', hrow'', hkept⟩ := (keeps_of_run hrun).requests _ req hreq
    obtain rfl := Option.some.inj (hrow''.symm.trans hrow')
    rw [List.coe_toFinset]
    refine List.mem_map.2 ⟨(r.requestId, row''), List.mem_filter.2 ⟨?_, decide_eq_true hst⟩, rfl⟩
    exact List.mem_filter.2
      ⟨Table.get?_eq_some.1 hrow', decide_eq_true (hkept.topicId.trans htopic)⟩
  calc (idsWith topicId s.db status).ncard
      ≤ ((sent.map Prod.fst).toFinset : Set Int).ncard :=
        Set.ncard_le_ncard hsub (Finset.finite_toSet _)
    _ ≤ sent.length := by
        rw [Set.ncard_coe_finset]
        exact (List.toFinset_card_le _).trans_eq (List.length_map _)
    _ = statusCount topicId t.db.requests (· = EmailMessageStatus.sent.asI32) := rfl

/-! ## The answer -/

/-- Where each table is one the program has filled, the two queries succeed and
report it as it is, all statuses known. -/
theorem getTopic_counts (hs : s.Inv E) (ht : Credited t) (hfit : s.IdsFit) {topicId : String}
    (htopic : topicId ≠ "") {statuses : List (Int × Int)} {labels : List (String × Int)}
    {answer : Except AppError (Counts × Counts)}
    (call : getTopic topicId statuses labels s.db t.db = some answer) :
    ∃ m m', answer = .ok (m, m') ∧ StatusCounts topicId s.db.requests m ∧
      m.get "Unknown" = 0 ∧ CountsRequests topicId t.db m' := by
  unfold getTopic at call
  rw [if_neg htopic] at call
  obtain ⟨requestResult, hrequest, call⟩ := Option.bind_eq_some_iff.1 call
  obtain ⟨resultResult, hresult, call⟩ := Option.bind_eq_some_iff.1 call
  obtain ⟨m', rfl, hm'⟩ := ht.resultIdsFit.counts hresult
  have hone := hs.rows.oneUnknown hfit topicId
  unfold EmailRequest.getRequestCountsByTopicId at hrequest
  split at hrequest
  · cases hrequest
  rename_i hperm
  have hgroups : statuses.Perm (statusGroups topicId s.db.requests) :=
    List.isPerm_iff.1 (not_not.1 hperm)
  obtain ⟨rows, hrows⟩ := hone.fetches hgroups
  have hfetched := fetched_of_mapM hrows hgroups
  rw [hrows] at hrequest
  obtain rfl := Option.some.inj hrequest
  obtain rfl := Option.some.inj call
  refine ⟨labelled rows, m', rfl, ⟨hfetched.total hone, hfetched.get_named,
    hfetched.get_unknown hone⟩, ?_, hm'⟩
  rw [hfetched.get_unknown hone, hs.rows.no_unknown]
  rfl

/-- `get_topic` answers with the figures of the tables its queries find, in whatever
order they run, and knows every status. Where the statuses are read last, no kind of
notification is counted for more mails than were sent. -/
theorem topic_statistics (hrun : Run E now₀ evs s) {evs' : List Event}
    (hrun' : Exec.run (Sys.step E) s evs' = some t) (hfit : t.IdsFit) {topicId : String}
    (htopic : topicId ≠ "") (statuses : List (Int × Int)) (labels : List (String × Int))
    (answer : Except AppError (Counts × Counts)) :
    (getTopic topicId statuses labels s.db t.db = some answer →
      ∃ m m', answer = .ok (m, m') ∧ StatusCounts topicId s.db.requests m ∧
        m.get "Unknown" = 0 ∧ CountsRequests topicId t.db m') ∧
    (getTopic topicId statuses labels t.db s.db = some answer →
      ∃ m m', answer = .ok (m, m') ∧ StatusCounts topicId t.db.requests m ∧
        m.get "Unknown" = 0 ∧ CountsRequests topicId s.db m' ∧
        ∀ label ≠ "Open", m'.get label ≤ m.get "Sent") := by
  have hsfit : s.IdsFit := (grows_of_run hrun').seq.trans hfit
  have hs := hrun.inv hsfit
  have hrunt : Run E now₀ (evs ++ evs') t := Exec.run_append.2 ⟨s, hrun, hrun'⟩
  refine ⟨getTopic_counts hs (hrunt.credited hfit) hsfit htopic, fun call => ?_⟩
  obtain ⟨m, m', rfl, hm, hunknown, hm'⟩ :=
    getTopic_counts (hrunt.inv hfit) (hrun.credited hsfit) hfit htopic call
  refine ⟨m, m', rfl, hm, hunknown, hm', fun label hne => ?_⟩
  have hle := (hrun.credited hsfit).ncard_le hs hrun' hfit topicId hne
  have hsent := hm.named .sent
  change m.get "Sent" = _ at hsent
  have hlabel := hm' label
  rw [hsent, Counts.get, hlabel]
  split_ifs with hzero
  · exact Int.natCast_nonneg _
  · exact Int.ofNat_le.2 hle

/-- The mail of the first topic is delivered after the statuses could be read. -/
def deliveredEvents : List Event := [.notify deliveryText true, .saveResult 0 true]

theorem topic_statistics_sample : ∃ s t m m', Run sampleEnv newYear
      (handOffEvents ++ answerEvents ++ flushEvents) s ∧
    Exec.run (Sys.step sampleEnv) s deliveredEvents = some t ∧
    getTopic "a" [(2, 1)] [("Delivery", 1)] s.db t.db = some (.ok (m, m')) ∧
    StatusCounts "a" s.db.requests m ∧ CountsRequests "a" t.db m' := by
  obtain ⟨s, hs, h⟩ := Exec.exists_of_any (Sys.step sampleEnv) (Sys.init newYear)
    (handOffEvents ++ answerEvents ++ flushEvents)
    (fun s => (Exec.run (Sys.step sampleEnv) s deliveredEvents).any fun t : Sys =>
      decide t.IdsFit && (getTopic "a" [(2, 1)] [("Delivery", 1)] s.db t.db).isSome) (by decide)
  obtain ⟨t, ht, h⟩ := (Option.any_eq_true _ _).1 h
  rw [Bool.and_eq_true, decide_eq_true_eq, Option.isSome_iff_exists] at h
  obtain ⟨hfit, answer, hanswer⟩ := h
  obtain ⟨m, m', rfl, hm, -, hm'⟩ := (topic_statistics hs ht hfit (by decide) _ _ _).1 hanswer
  exact ⟨s, t, m, m', hs, ht, hanswer, hm, hm'⟩

end Ses
