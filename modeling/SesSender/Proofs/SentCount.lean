import Mathlib.Data.Int.Interval
import SesSender.Proofs.LifeCycle
import SesSender.Spec.Statistics

/-! `sent_count` against the run that filled the table. It looks at the time a
row was created, not at the time its mail went out, so it never counts too much,
and it misses what was created before the window and sent in it. -/

namespace Ses

open Calendar

variable {E : Env} {s t : Sys} {e : Event} {now₀ : Instant} {evs : List Event}

/-! ## What was sent when -/

def Sys.IsSent (s : Sys) (id : Int) : Prop :=
  ∃ row, s.db.requests.get? id = some row ∧ row.status = EmailMessageStatus.sent.asI32

/-- A step of the run set the status of the row to Sent, at the given time. -/
def SetToSent (E : Env) (now₀ : Instant) (evs : List Event) (id : Int) (time : Instant) : Prop :=
  ∃ pre e post s t, evs = pre ++ e :: post ∧ Run E now₀ pre s ∧ s.step E e = some t ∧
    ¬ s.IsSent id ∧ t.IsSent id ∧ s.now = time

/-- The time is no more than `hours` hours ago. -/
def WithinHours (now : Instant) (hours : Int32) (time : Instant) : Prop :=
  now.secs - 3600 * hours.toInt ≤ time.secs

instance (now : Instant) (hours : Int32) (time : Instant) : Decidable (WithinHours now hours time) :=
  inferInstanceAs (Decidable (_ ≤ _))

/-- The rows that were set to Sent within the hours. -/
def sentWithin (E : Env) (now₀ : Instant) (evs : List Event) (now : Instant) (hours : Int32) :
    Set Int :=
  {id | ∃ time, SetToSent E now₀ evs id time ∧ WithinHours now hours time}

/-- The row was created within the hours, in a year of four digits. -/
def CreatedWithin (now : Instant) (hours : Int32) (row : RequestRow) : Prop :=
  ∃ time : Instant, row.createdAt = time.stamp ∧ FourDigits time.year ∧ WithinHours now hours time

/-- The date-time the window starts at. -/
def windowOpens (now : Instant) (hours : Int32) : DateTime := now.hoursBefore hours.toInt.toNat

/-! ## The column `created_at` -/

/-- The row was created at some time up to now. -/
def CreatedBy (now : Instant) (row : RequestRow) : Prop :=
  ∃ time : Instant, row.createdAt = time.stamp ∧ time.secs ≤ now.secs

theorem createdAt_of_map {f : RequestRow → RequestRow} (hf : ∀ row, (f row).createdAt = row.createdAt)
    {o : Option RequestRow} {row' : RequestRow} (h : o.map f = some row') :
    ∃ row, o = some row ∧ row'.createdAt = row.createdAt := by
  obtain ⟨row, rfl, rfl⟩ := Option.map_eq_some_iff.1 h
  exact ⟨row, rfl, hf row⟩

/-- No `INSERT` of a batch is later than the step that ends it. -/
theorem Sys.saveRequests_clock {i : ℕ} {clock : ℕ → Instant} {F : TxFaults}
    (h : s.saveRequests E i clock F = some t) : t.db.requests = s.db.requests ∨
      ∃ payload contents saved,
        (∀ k ≤ (CreateMessageRequest.requests payload contents).length,
          (clock k).secs ≤ s.now.secs) ∧
        EmailRequest.saveBatch E s.db.contents clock F (payload.requests contents)
          s.db.requests = .ok (saved, t.db.requests) := by
  simp only [Sys.saveRequests] at h
  split at h
  · rename_i payload contents hi
    split at h
    · obtain rfl := Option.some.inj h; exact Or.inl rfl
    · split at h
      · cases h
      · rename_i hclock
        split at h
        · obtain rfl := Option.some.inj h; exact Or.inl rfl
        · rename_i saved t' hsave
          obtain rfl := Option.some.inj h
          exact Or.inr ⟨payload, contents, saved, not_not.1 hclock, hsave⟩
  · cases h

/-- The time of a row that `saveRequests` adds has come. -/
theorem Sys.saveRequests_row {i : ℕ} {clock : ℕ → Instant} {F : TxFaults}
    (h : s.saveRequests E i clock F = some t) {id : Int} {row : RequestRow}
    (hrow : t.db.requests.get? id = some row) : s.db.requests.get? id = some row ∨
      s.db.requests.get? id = none ∧ CreatedBy s.now row := by
  rcases Sys.saveRequests_clock h with hsame | ⟨payload, contents, saved, hclock, hsave⟩
  · exact Or.inl (hsame ▸ hrow)
  · rcases EmailRequest.saveBatch_new hsave hrow with hold | ⟨hnone, req, -, k, hk, hto⟩
    · exact Or.inl hold
    · obtain ⟨topicId, contentId, -, -, rfl⟩ := EmailRequest.toRow_eq_some.1 hto
      exact Or.inr ⟨hnone, clock k, rfl, hclock k hk.le⟩

/-- After a step a row has the time it had, or it is new and created by now. -/
theorem Sys.step_row (h : s.step E e = some t) {id : Int} {row' : RequestRow}
    (hrow' : t.db.requests.get? id = some row') :
    (∃ row, s.db.requests.get? id = some row ∧ row'.createdAt = row.createdAt) ∨
      s.db.requests.get? id = none ∧ CreatedBy s.now row' := by
  cases Sys.Step.of_step h with
  | scheduledSaved => exact (Sys.saveRequests_row h hrow').imp_left fun hold => ⟨row', hold, rfl⟩
  | immediateSaved => exact (Sys.saveRequests_row h hrow').imp_left fun hold => ⟨row', hold, rfl⟩
  | rolledBack =>
    rw [get?_rollbackToCreated] at hrow'
    exact Or.inl (createdAt_of_map (fun row => by split <;> rfl) hrow')
  | claimUnread =>
    rw [get?_claim] at hrow'
    exact Or.inl (createdAt_of_map (fun row => by split <;> rfl) hrow')
  | claimed =>
    rw [get?_claim] at hrow'
    exact Or.inl (createdAt_of_map (fun row => by split <;> rfl) hrow')
  | stopTopic =>
    rw [get?_stopTopic] at hrow'
    exact Or.inl (createdAt_of_map (fun row => by split <;> rfl) hrow')
  | flushed _ written =>
    rw [get?_bulkUpdateAll written] at hrow'
    exact Or.inl (createdAt_of_map (fun row => by split <;> rfl) hrow')
  | updated =>
    rw [get?_update] at hrow'
    exact Or.inl (createdAt_of_map (fun row => by split <;> rfl) hrow')
  | _ => exact Or.inl ⟨row', hrow', rfl⟩

/-- No row is from the future. -/
def CreatedByNow (s : Sys) : Prop :=
  ∀ id row, s.db.requests.get? id = some row → CreatedBy s.now row

/-- What a step leaves in the table was created before it was over. -/
theorem CreatedByNow.row (hs : CreatedByNow s) (h : s.step E e = some t) {id : Int}
    {row' : RequestRow} (hrow' : t.db.requests.get? id = some row') : CreatedBy s.now row' := by
  rcases Sys.step_row h hrow' with ⟨row, hrow, hat⟩ | ⟨-, hnew⟩
  · unfold CreatedBy
    rw [hat]
    exact hs id row hrow
  · exact hnew

theorem CreatedByNow.step (hs : CreatedByNow s) (h : s.step E e = some t) : CreatedByNow t := by
  intro id row' hrow'
  obtain ⟨time, hat, hle⟩ := hs.row h hrow'
  exact ⟨time, hat, hle.trans (Sys.Step.of_step h).grows.now⟩

theorem get?_init (now₀ : Instant) (id : Int) : (Sys.init now₀).db.requests.get? id = none := rfl

theorem Run.createdByNow (hrun : Run E now₀ evs s) : CreatedByNow s := by
  refine Exec.run_keeps (fun h hs => hs.step h) hrun ?_
  intro id row hrow
  rw [get?_init] at hrow
  cases hrow

/-- A row keeps its time for good. -/
theorem createdAt_of_run (hrun : Exec.run (Sys.step E) s evs = some t) {id : Int}
    {row row' : RequestRow} (hrow : s.db.requests.get? id = some row)
    (hrow' : t.db.requests.get? id = some row') : row'.createdAt = row.createdAt := by
  induction evs generalizing s row with
  | nil =>
    rw [Exec.run_nil.1 hrun, hrow'] at hrow
    exact congrArg _ (Option.some.inj hrow)
  | cons e evs ih =>
    obtain ⟨u, hu, hr⟩ := Exec.run_cons.1 hrun
    obtain ⟨row₁, hrow₁, -⟩ := (Sys.Step.of_step hu).grows.rows id row hrow
    rcases Sys.step_row hu hrow₁ with ⟨row₀, hrow₀, hat⟩ | ⟨hnone, -⟩
    · obtain rfl := Option.some.inj (hrow₀.symm.trans hrow)
      exact (ih hr hrow₁).trans hat
    · rw [hrow] at hnone
      cases hnone

/-! ## What the counter finds -/

theorem windowStart_eq {now : Instant} {hours : Int32} (h0 : 0 ≤ hours.toInt)
    (hyear : 0 ≤ (windowOpens now hours).year) :
    windowStart now hours = some (windowOpens now hours).stamp := by
  have hsecs := DateTime.secs_nonneg hyear
  unfold windowOpens at hsecs
  unfold windowStart julianZero windowOpens
  rw [if_neg (by omega), if_neg (by omega)]

/-- The rows the query selects. -/
def countedIds (now : Instant) (hours : Int32) (t : Table RequestRow) : Set Int :=
  {id | ∃ row, t.get? id = some row ∧ row.status = EmailMessageStatus.sent.asI32 ∧
    (windowOpens now hours).stamp ≤ row.createdAt}

theorem sentCount_eq {now : Instant} {hours : Int32} (h0 : 0 ≤ hours.toInt)
    (hyear : 0 ≤ (windowOpens now hours).year) (t : Table RequestRow) :
    EmailRequest.sentCount now hours t = fetchI32 (countedIds now hours t).ncard := by
  unfold EmailRequest.sentCount countedIds
  rw [windowStart_eq h0 hyear, ← Grouping.length_filter_rows]
  simp

theorem fetchI32_eq_iff (a b : ℕ) :
    (∃ n, fetchI32 a = .ok n ∧ n.toInt = b) ↔ (b : Int) ≤ i32Max ∧ a = b := by
  unfold fetchI32
  refine ⟨?_, ?_⟩
  · rintro ⟨n, hn, hb⟩
    cases hd : decodeI32 a with
    | none => rw [hd] at hn; cases hn
    | some m =>
      rw [hd] at hn
      obtain rfl : m = n := Except.ok.inj hn
      have ha := decodeI32_eq_some hd
      have hle := (decodeI32_iff_fit (Int.natCast_nonneg a)).1 ⟨m, hd⟩
      exact ⟨by omega, by omega⟩
  · rintro ⟨hb, rfl⟩
    have hd := decodeI32_of_fit (Int.natCast_nonneg a) hb
    exact ⟨_, by rw [hd]; rfl, decodeI32_eq_some hd⟩

/-- As text a clock reading is in the window when it is one, its year having four digits. -/
theorem window_le_iff {now : Instant} {hours : Int32} (h0 : 0 ≤ hours.toInt)
    (hstart : FourDigits (windowOpens now hours).year) (time : Instant) :
    (windowOpens now hours).stamp ≤ time.stamp ↔
      FourDigits time.year ∧ WithinHours now hours time := by
  by_cases htime : FourDigits time.year
  · rw [DateTime.stamp_le_iff hstart htime time.second_lt, and_iff_right htime, windowOpens,
      DateTime.secs_hoursBefore, Int.toNat_of_nonneg h0, WithinHours]
  · have hlt := DateTime.stamp_lt_of_signed htime hstart
    exact iff_of_false (not_le_of_gt hlt) fun h => htime h.1

theorem window_le_createdAt_iff {now : Instant} {hours : Int32} (h0 : 0 ≤ hours.toInt)
    (hstart : FourDigits (windowOpens now hours).year) {row : RequestRow}
    (hrow : CreatedBy now row) :
    (windowOpens now hours).stamp ≤ row.createdAt ↔ CreatedWithin now hours row := by
  refine ⟨?_, ?_⟩
  · intro hle
    obtain ⟨time, hat, -⟩ := hrow
    rw [hat, window_le_iff h0 hstart] at hle
    exact ⟨time, hat, hle⟩
  · rintro ⟨time, hat, hwithin⟩
    rw [hat]
    exact (window_le_iff h0 hstart time).2 hwithin

/-! ## What it counts was sent in the window -/

theorem not_isSent_init (now₀ : Instant) (id : Int) : ¬ (Sys.init now₀).IsSent id := by
  rintro ⟨row, hrow, -⟩
  rw [get?_init] at hrow
  cases hrow

/-- The run from the step on. -/
theorem SetToSent.rest (hrun : Run E now₀ evs s) {id : Int} {time : Instant}
    (h : SetToSent E now₀ evs id time) : ∃ pre e post u v, Run E now₀ pre u ∧
      u.step E e = some v ∧ Exec.run (Sys.step E) v post = some s ∧ v.IsSent id := by
  obtain ⟨pre, e, post, u, v, rfl, hpre, hstep, -, hsent, -⟩ := h
  obtain ⟨u', hpre', hrest⟩ := Exec.run_append.1 hrun
  obtain rfl := Option.some.inj (hpre'.symm.trans hpre)
  obtain ⟨v', hstep', hpost⟩ := Exec.run_cons.1 hrest
  obtain rfl := Option.some.inj (hstep'.symm.trans hstep)
  exact ⟨pre, e, post, _, _, hpre, hstep, hpost, hsent⟩

theorem rowid_of_sentWithin (hrun : Run E now₀ evs s) {now : Instant} {hours : Int32}
    {id : Int} (h : id ∈ sentWithin E now₀ evs now hours) : 1 ≤ id ∧ id ≤ s.db.requests.seq := by
  obtain ⟨time, hset, -⟩ := h
  obtain ⟨_, _, _, _, v, -, -, hpost, row, hrow, -⟩ := hset.rest hrun
  obtain ⟨row', hrow', -⟩ := (grows_of_run hpost).rows id row hrow
  exact ⟨Table.pos_of_get? hrow', Table.le_seq_of_get? hrow'⟩

theorem finite_sentWithin (hrun : Run E now₀ evs s) (now : Instant) (hours : Int32) :
    (sentWithin E now₀ evs now hours).Finite :=
  (Set.finite_Icc 1 s.db.requests.seq).subset fun _ h => rowid_of_sentWithin hrun h

theorem ncard_sentWithin_le (hrun : Run E now₀ evs s) (now : Instant) (hours : Int32) :
    ((sentWithin E now₀ evs now hours).ncard : Int) ≤ s.db.requests.seq := by
  have hsub : sentWithin E now₀ evs now hours ⊆ Set.Icc 1 s.db.requests.seq :=
    fun _ h => rowid_of_sentWithin hrun h
  have hle := Set.ncard_le_ncard hsub (Set.finite_Icc _ _)
  rw [← Finset.coe_Icc, Set.ncard_coe_finset, Int.card_Icc] at hle
  have := s.db.requests.seq_nonneg
  omega

/-- A row was created before it was sent, so a row created in the window and sent
was sent in the window. -/
theorem counted_subset (hrun : Run E now₀ evs s) {hours : Int32} (h0 : 0 ≤ hours.toInt)
    (hstart : FourDigits (windowOpens s.now hours).year) :
    countedIds s.now hours s.db.requests ⊆ sentWithin E now₀ evs s.now hours := by
  rintro id ⟨row, hrow, hst, hle⟩
  -- the step that set it to Sent, which is no earlier than its creation
  obtain ⟨pre, e, post, u, v, hevs, hpre, hstep, hpost, hu, hv⟩ :=
    Exec.run_became (P := fun s => s.IsSent id) hrun (not_isSent_init now₀ id) ⟨row, hrow, hst⟩
  obtain ⟨row₁, hrow₁, hst₁⟩ := hv
  obtain ⟨time, hat, hby⟩ := (Run.createdByNow hpre).row hstep hrow₁
  rw [createdAt_of_run hpost hrow₁ hrow, hat, window_le_iff h0 hstart] at hle
  exact ⟨u.now, ⟨pre, e, post, u, v, hevs, hpre, hstep, hu, ⟨row₁, hrow₁, hst₁⟩, rfl⟩,
    hle.2.trans hby⟩

/-! ## The counter -/

theorem mem_countedIds (hrun : Run E now₀ evs s) {hours : Int32} (h0 : 0 ≤ hours.toInt)
    (hstart : FourDigits (windowOpens s.now hours).year) {id : Int} :
    id ∈ countedIds s.now hours s.db.requests ↔
      ∃ row, s.db.requests.get? id = some row ∧ row.status = EmailMessageStatus.sent.asI32 ∧
        CreatedWithin s.now hours row := by
  refine exists_congr fun row => and_congr_right fun hrow => and_congr_right fun _ => ?_
  exact window_le_createdAt_iff h0 hstart (Run.createdByNow hrun id row hrow)

/-- The counter is right when it misses nothing. -/
theorem sentCount_iff_subset (hrun : Run E now₀ evs s) {hours : Int32} (h0 : 0 ≤ hours.toInt)
    (hstart : FourDigits (windowOpens s.now hours).year) :
    (∃ n, EmailRequest.sentCount s.now hours s.db.requests = .ok n ∧
        n.toInt = (sentWithin E now₀ evs s.now hours).ncard) ↔
      ((sentWithin E now₀ evs s.now hours).ncard : Int) ≤ i32Max ∧
        sentWithin E now₀ evs s.now hours ⊆ countedIds s.now hours s.db.requests := by
  have hsub := counted_subset hrun h0 hstart
  have hfin := finite_sentWithin hrun s.now hours
  rw [sentCount_eq h0 hstart.1, fetchI32_eq_iff]
  refine and_congr_right fun _ => ⟨fun heq => ?_, fun hsup => ?_⟩
  · rw [Set.eq_of_subset_of_ncard_le hsub heq.ge hfin]
  · rw [hsub.antisymm hsup]

/-- While row ids fit, what was set to Sent stays so. -/
theorem SetToSent.still_sent (hrun : Run E now₀ evs s) (hfit : s.IdsFit) {id : Int} {time : Instant}
    (h : SetToSent E now₀ evs id time) : s.IsSent id := by
  obtain ⟨pre, e, post, u, v, hpre, hstep, hpost, row, hrow, hst⟩ := h.rest hrun
  have hv : v.IdsFit := (grows_of_run hpost).seq.trans hfit
  have hu : u.IdsFit := (Sys.Step.of_step hstep).idsFit hv
  have hinv : v.Inv E := (hpre.inv hu).step (Sys.Step.of_step hstep) hv
  obtain ⟨row', hrow', hst'⟩ := hinv.final_status hpost hfit hrow (by rw [hst]; decide)
  exact ⟨row', hrow', hst'.trans hst⟩

/-- While row ids fit, the counter is right exactly when no mail sent in the window
was created before it. -/
theorem sentCount_of_fit (hrun : Run E now₀ evs s) (hfit : s.IdsFit) {hours : Int32}
    (h0 : 0 ≤ hours.toInt) (hstart : FourDigits (windowOpens s.now hours).year) :
    (∃ n, EmailRequest.sentCount s.now hours s.db.requests = .ok n ∧
        n.toInt = (sentWithin E now₀ evs s.now hours).ncard) ↔
      ∀ id ∈ sentWithin E now₀ evs s.now hours, ∃ row,
        s.db.requests.get? id = some row ∧ CreatedWithin s.now hours row := by
  rw [sentCount_iff_subset hrun h0 hstart, and_iff_right ((ncard_sentWithin_le hrun _ _).trans hfit)]
  refine forall₂_congr fun id hid => ?_
  rw [mem_countedIds hrun h0 hstart]
  obtain ⟨time, hset, -⟩ := hid
  obtain ⟨row, hrow, hst⟩ := hset.still_sent hrun hfit
  refine ⟨?_, ?_⟩
  · rintro ⟨row', hrow', -, hwithin⟩
    exact ⟨row', hrow', hwithin⟩
  · rintro ⟨row', hrow', hwithin⟩
    obtain rfl := Option.some.inj (hrow'.symm.trans hrow)
    exact ⟨row', hrow', hst, hwithin⟩

/-- While row ids fit, the endpoint answers with the number of rows selected, and
that is no more than were sent in the window. -/
theorem getSentCount_of_fit (hrun : Run E now₀ evs s) (hfit : s.IdsFit) {hours : Option Int32}
    (h0 : 0 ≤ (hours.getD 24).toInt)
    (hstart : FourDigits (windowOpens s.now (hours.getD 24)).year) :
    ∃ n, getSentCount s.now hours s.db.requests = .ok n ∧
      n.toInt = (countedIds s.now (hours.getD 24) s.db.requests).ncard ∧
      n.toInt ≤ (sentWithin E now₀ evs s.now (hours.getD 24)).ncard := by
  have hfew := Set.ncard_le_ncard (counted_subset hrun h0 hstart) (finite_sentWithin hrun _ _)
  have hall := ncard_sentWithin_le hrun s.now (hours.getD 24)
  have hmax : ((countedIds s.now (hours.getD 24) s.db.requests).ncard : Int) ≤ i32Max :=
    (Int.ofNat_le.2 hfew).trans (hall.trans hfit)
  obtain ⟨n, hn, heq⟩ := (fetchI32_eq_iff _ _).2 ⟨hmax, rfl⟩
  refine ⟨n, ?_, heq, heq ▸ Int.ofNat_le.2 hfew⟩
  rw [getSentCount, sentCount_eq h0 hstart.1, hn]
  rfl

/-- The counter is right exactly when every row set to Sent in the window was
created in the window and still has the status, and an `i32` can count them. -/
theorem sent_count_iff (hrun : Run E now₀ evs s) {hours : Int32} (h0 : 0 ≤ hours.toInt)
    (hstart : FourDigits (windowOpens s.now hours).year) :
    (∃ n, EmailRequest.sentCount s.now hours s.db.requests = .ok n ∧
        n.toInt = (sentWithin E now₀ evs s.now hours).ncard) ↔
      ((sentWithin E now₀ evs s.now hours).ncard : Int) ≤ i32Max ∧
        ∀ id ∈ sentWithin E now₀ evs s.now hours, ∃ row,
          s.db.requests.get? id = some row ∧ row.status = EmailMessageStatus.sent.asI32 ∧
            CreatedWithin s.now hours row := by
  rw [sentCount_iff_subset hrun h0 hstart]
  exact and_congr_right fun _ => forall₂_congr fun id _ => mem_countedIds hrun h0 hstart

/-- One mail, created and sent in one second. -/
def promptEvents : List Event :=
  [.request (sampleMail "a" none)] ++ saving 0 ++ [.handOff 0 .ok] ++ answerEvents ++ flushEvents

theorem sent_count_iff_sample : ∃ s, Run sampleEnv newYear promptEvents s ∧
    EmailRequest.sentCount s.now 24 s.db.requests = .ok 1 ∧
    (sentWithin sampleEnv newYear promptEvents s.now 24).ncard = 1 := by
  obtain ⟨s, hs, hp⟩ := Exec.exists_of_any (Sys.step sampleEnv) (Sys.init newYear) promptEvents
    (fun s => decide (s.db.requests.seq = 1 ∧ FourDigits (windowOpens s.now 24).year ∧
        WithinHours s.now 24 newYear ∧
        EmailRequest.sentCount s.now 24 s.db.requests = .ok 1) &&
      (s.db.requests.get? 1).any fun row =>
        row.status = EmailMessageStatus.sent.asI32 ∧ row.createdAt = newYear.stamp) (by decide)
  simp only [Bool.and_eq_true, decide_eq_true_eq, Option.any_eq_true] at hp
  obtain ⟨⟨hseq, hstart, hopen, hcount⟩, row, hrow, hst, hat⟩ := hp
  have hle := ncard_sentWithin_le hs s.now 24
  have h24 : 0 ≤ (24 : Int32).toInt := by decide
  obtain ⟨n, hn, heq⟩ := (sent_count_iff hs h24 hstart).2
    ⟨by unfold i32Max; omega, fun id hid => by
      have hbound := rowid_of_sentWithin hs hid
      obtain rfl : id = 1 := by omega
      exact ⟨row, hrow, hst, newYear, hat, by decide, hopen⟩⟩
  obtain rfl : n = 1 := Except.ok.inj (hn.symm.trans hcount)
  have hone : (1 : Int32).toInt = 1 := rfl
  exact ⟨s, hs, hcount, by omega⟩

def yearBefore : Instant := ⟨(Date.newYear 2029).midnight, by decide⟩

/-- One mail, created a year before its time comes, up to the write of its result. -/
def bookedEvents : List Event :=
  [.request (sampleMail "a" (some "2030-01-01 09:00:00")),
    .saveContents 0 (fun _ => yearBefore) .none, .saveRequests 0 (fun _ => yearBefore) .none,
    .tick newYear, .spawnScheduler, .claimBatch 0 [1] true,
    .fetchContents 0 [⟨1, "a", 1, "reader@example.com", "Hello", "<p>Hi</p>"⟩] true,
    .schedulerSend 0 true] ++ answerEvents ++ [.postTimeout true]

/-- A mail that has just been sent is not among those of the last 24 hours. -/
theorem sent_count_misses_booked : ¬ ∀ (E : Env) (now₀ : Instant) (evs : List Event) (s : Sys)
    (hours : Int32), Run E now₀ evs s → 0 ≤ hours.toInt →
    FourDigits (windowOpens s.now hours).year →
    ∃ n, EmailRequest.sentCount s.now hours s.db.requests = .ok n ∧
      n.toInt = (sentWithin E now₀ evs s.now hours).ncard := by
  intro h
  obtain ⟨u, hu, hp⟩ := Exec.exists_of_any (Sys.step sampleEnv) (Sys.init yearBefore) bookedEvents
    (fun u => (u.db.requests.get? 1).all (fun row => row.status ≠ EmailMessageStatus.sent.asI32) &&
      (u.step sampleEnv (.flushBulk true)).any fun s : Sys =>
        (s.db.requests.get? 1).any (fun row => row.status = EmailMessageStatus.sent.asI32) &&
        decide (FourDigits (windowOpens s.now 24).year ∧
          WithinHours s.now 24 u.now ∧
          EmailRequest.sentCount s.now 24 s.db.requests = .ok 0)) (by decide)
  simp only [Bool.and_eq_true, decide_eq_true_eq, Option.any_eq_true, Option.all_eq_true] at hp
  obtain ⟨hnot, s, hstep, ⟨row, hrow, hst⟩, hstart, hopen, hcount⟩ := hp
  have hrun : Run sampleEnv yearBefore (bookedEvents ++ [.flushBulk true]) s :=
    Exec.run_append.2 ⟨u, hu, Exec.run_cons.2 ⟨s, hstep, rfl⟩⟩
  have hset : SetToSent sampleEnv yearBefore (bookedEvents ++ [.flushBulk true]) 1 u.now :=
    ⟨_, _, [], u, s, rfl, hu, hstep, fun ⟨row, hrow, hst⟩ => hnot row hrow hst,
      ⟨row, hrow, hst⟩, rfl⟩
  have hmem : 1 ∈ sentWithin sampleEnv yearBefore (bookedEvents ++ [.flushBulk true]) s.now 24 :=
    ⟨u.now, hset, hopen⟩
  have hne := Set.ncard_ne_zero_of_mem hmem (finite_sentWithin hrun _ _)
  obtain ⟨n, hn, heq⟩ := h _ _ _ s 24 hrun (by decide) hstart
  obtain rfl : n = 0 := Except.ok.inj (hn.symm.trans hcount)
  have hzero : (0 : Int32).toInt = 0 := rfl
  omega

end Ses
